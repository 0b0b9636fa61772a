import SchemaTypes.Proofs.Direct.Basic
import SchemaTypes.Proofs.Resolve.Nesting

set_option autoImplicit false

/-!
# Agreement with the recursion that has no memory

Where no cycle is reached and default names do not clash, what a session remembers is invisible:
each reference is resolved to the result of the plain recursion, whatever was resolved before and
whether that failed.  The registry then holds nothing but such results, takes no names but default
names, and no open reference is ever met again, so none has a name.
-/

namespace SchemaTypes

namespace Registry

/-- What is remembered are results, names are default names of references that are reached, and no
open reference has a name. -/
structure Faithful (s : Surroundings) (given : Reference → Prop) (registry : Registry) : Prop where
  models : ∀ {r model}, registry.models.get? r.canonical = some model →
    s.result r = .ok model.identifier
  inlined : ∀ {r type}, registry.inlined.get? r.canonical = some type → s.result r = .ok type
  names : ∀ {name key}, registry.names.get? name = some key →
    ∃ r, s.Reached given r ∧ r.canonical = key ∧ s.defaultName r = name
  unnamed : ∀ entry ∈ registry.pending, entry.2.reserved = none

namespace Faithful

variable {s : Surroundings} {given : Reference → Prop} {registry after : Registry} {r : Reference}

theorem empty (s : Surroundings) (given : Reference → Prop) : Registry.empty.Faithful s given where
  models h := by cases h
  inlined h := by cases h
  names h := by cases h
  unnamed _ h := absurd h List.not_mem_nil

/-- Every answer is a result. -/
theorem answer {type : TypeExpr} (h : registry.Faithful s given)
    (hanswer : registry.answer? r.canonical = some type) : s.result r = .ok type := by
  unfold answer? at hanswer
  split at hanswer
  · rename_i hmodel
    cases hanswer
    exact h.models hmodel
  · split at hanswer
    · rename_i hinlined
      cases hanswer
      exact h.inlined hinlined
    · obtain ⟨name, hname, rfl⟩ := Option.map_eq_some_iff.mp hanswer
      obtain ⟨entry, hopen, hreserved⟩ := Option.bind_eq_some_iff.mp hname
      rw [h.unnamed _ (OrderedMap.mem_of_get? hopen)] at hreserved
      cases hreserved

theorem recordHelper (h : registry.Faithful s given) (path name : String) :
    (registry.recordHelper path name).Faithful s given :=
  ⟨h.models, h.inlined, h.names, h.unnamed⟩

theorem opening (h : registry.Faithful s given) {key : String} (hnew : registry.New key)
    (policy : NamingPolicy) : (registry.begin key policy).Faithful s given := by
  rw [begin_of_new hnew]
  refine ⟨h.models, h.inlined, h.names, fun entry hentry => ?_⟩
  rcases List.mem_append.mp hentry with hold | hlast
  · exact h.unnamed entry hold
  · rw [List.mem_singleton.mp hlast]

/-- After a fault the registry remembers what it did before. -/
theorem restores (h : registry.Faithful s given) (hrestores : registry.Restores after)
    (hunnamed : ∀ entry ∈ after.pending, entry.2.reserved = none) : after.Faithful s given where
  models := by
    rw [hrestores.models]
    exact h.models
  inlined := by
    rw [hrestores.inlined]
    exact h.inlined
  names := by
    rw [hrestores.names]
    exact h.names
  unnamed := hunnamed

/-- The default name of a reference is free for it. -/
theorem freeName?_eq (h : registry.Faithful s given) (hdistinct : s.DistinctNames given)
    (hreached : s.Reached given r) {policy : NamingPolicy}
    (hpolicy : policy.name r = s.defaultName r) :
    registry.freeName? policy r = some (s.defaultName r) := by
  have hfree : registry.isTaken r.canonical (s.defaultName r) = false := by
    unfold isTaken
    split
    · rename_i owner howner
      obtain ⟨other, hother, rfl, hname⟩ := h.names howner
      rw [hdistinct other r hother hreached hname]
      simp
    · rfl
  unfold freeName? firstFree candidate
  rw [if_pos rfl, hpolicy, hfree]
  rfl

/-- A reference that is closed with its result. -/
theorem closes {policy : NamingPolicy} {type answer : TypeExpr} (h : registry.Faithful s given)
    (hdistinct : s.DistinctNames given) (hreached : s.Reached given r)
    (hpolicy : policy.name r = s.defaultName r)
    (hopen : registry.pending.get? r.canonical = some ⟨policy, none⟩)
    (hresult : s.result r =
      .ok (if type.containsRecord then (s.defaultName r).identifier else type))
    (hcloses : registry.Closes r type answer after) :
    s.result r = .ok answer ∧ after.Faithful s given := by
  have hunnamed : ∀ entry ∈ registry.pending.erase r.canonical, entry.2.reserved = none :=
    fun entry hentry => h.unnamed entry ((OrderedMap.erase_sublist _ _).subset hentry)
  rw [TypeExpr.containsRecord_eq_qualifies] at hresult
  cases hcloses with
  | recursive opened =>
    rw [hopen] at opened
    cases opened
  | @declared chosen name opened qualifies free =>
    obtain rfl : chosen = policy := by
      rw [hopen] at opened
      cases opened
      rfl
    obtain rfl : s.defaultName r = name :=
      Option.some.inj ((h.freeName?_eq hdistinct hreached hpolicy).symm.trans free)
    rw [qualifies, if_pos rfl] at hresult
    refine ⟨hresult, ?_, h.inlined, ?_, hunnamed⟩
    · intro other model hmodel
      rcases OrderedMap.get?_append_singleton_eq hmodel with hold | ⟨hkey, rfl⟩
      · exact h.models hold
      · rw [← Reference.eq_of_canonical_eq hkey]
        exact hresult
    · intro name key hname
      change (registry.names.insert _ _).get? name = some key at hname
      rw [OrderedMap.get?_insert] at hname
      split at hname
      · rename_i heq
        cases hname
        exact ⟨r, hreached, rfl, heq⟩
      · exact h.names hname
  | inlined opened simple =>
    rw [simple] at hresult
    refine ⟨hresult, h.models, ?_, h.names, hunnamed⟩
    intro other found hfound
    rcases OrderedMap.get?_append_singleton_eq hfound with hold | ⟨hkey, rfl⟩
    · exact h.inlined hold
    · rw [← Reference.eq_of_canonical_eq hkey]
      exact hresult

end Faithful

end Registry

namespace Session

/-! ## Sessions that remember only results -/

/-- A session in given surroundings, in which the references of a list are open and only results are
remembered. -/
structure Stands (s : Surroundings) (given : Reference → Prop) (outer : List Reference)
    (session : Session) : Prop where
  surroundings : session.surroundings = s
  opened : Opened outer session
  faithful : session.registry.Faithful s given

section Stands

variable {s : Surroundings} {given : Reference → Prop} {outer : List Reference}
  {session after : Session} {r : Reference}

theorem Stands.grows (h : Stands s given outer session) (hgrows : session.Grows after)
    (hfaithful : after.registry.Faithful s given) : Stands s given outer after where
  surroundings := by
    rw [hgrows.same]
    exact h.surroundings
  opened := h.opened.grows hgrows
  faithful := hfaithful

theorem Stands.store_eq (h : Stands s given outer session) : session.store = s.store := by
  rw [← h.surroundings]
  rfl

theorem Stands.opening (h : Stands s given outer session)
    (hnew : session.registry.New r.canonical) (hhas : session.store.Has r) :
    Stands s given (outer ++ [r]) (session.opening none r) where
  surroundings := h.surroundings
  opened := h.opened.opening hnew hhas none
  faithful := h.faithful.opening hnew _

theorem defaultPolicy_name (session : Session) (r : Reference) :
    (session.defaultPolicy r).name r = session.surroundings.defaultName r := by
  unfold defaultPolicy Surroundings.defaultName surroundings
  split <;> rfl

theorem outcome_textType (format : Option String) (session : Session) :
    Result.outcome (Schema.textType format session) =
      .ok (session.surroundings.textType format) := by
  cases format with
  | none => rfl
  | some format =>
    unfold Schema.textType Surroundings.textType
    cases htemporal : session.config.isTemporal format with
    | true => simp only [surroundings, htemporal, if_true, Result.outcome]
    | false => simp only [surroundings, htemporal, Bool.false_eq_true, if_false, Result.outcome]

theorem faithful_textType (h : session.registry.Faithful s given) (format : Option String) :
    ((Schema.textType format).after session).registry.Faithful s given := by
  obtain ⟨after, hafter⟩ := Result.exists_ok (outcome_textType format session)
  rw [Run.after_of_ok hafter]
  rcases Schema.textType_ok hafter with ⟨-, rfl⟩ | ⟨display, backing, path, -, rfl⟩
  · exact h
  · exact h.recordHelper path backing

end Stands

/-! ## Elaborations -/

/-- As long as only good references are noted, a step gives what the recursion does, and the session
goes on to remember only results. -/
def Agrees (s : Surroundings) (given : Reference → Prop) (outer : List Reference)
    (document : String) (Good : Reference → Prop) (α : Type) (x : Noting α) (y : Run α) : Prop :=
  (∀ met, met <+: Result.state (x met)) ∧
  ∀ session met, Stands s given outer session → session.current = document →
    (∀ r ∈ Result.state (x met), Good r) →
      Result.outcome (y session) = Result.outcome (x met) ∧ session.Grows (y.after session) ∧
        (y.after session).registry.Faithful s given

/-- References that a step resolves to their results, while those of a list are open. -/
def Simulates (s : Surroundings) (given : Reference → Prop) (outer : List Reference)
    (Good : Reference → Prop) (resolve : Reference → Run TypeExpr) : Prop :=
  ∀ r, Good r → ∀ session, Stands s given outer session →
    Result.outcome (resolve r session) = s.result r ∧
      ((resolve r).after session).registry.Faithful s given

section Agrees

variable {s : Surroundings} {given Good : Reference → Prop} {outer : List Reference}
  {resolve : Reference → Run TypeExpr}

theorem relates_agrees {document : String} :
    Schema.Relates (Agrees s given outer document Good) where
  pure value :=
    ⟨fun _ => List.prefix_rfl, fun session _ h _ _ => ⟨rfl, .refl session, h.faithful⟩⟩
  bind := by
    rintro α β x y f g ⟨hkeeps, hfirst⟩ hsecond
    refine ⟨fun met => ?_, fun session met hstands hcurrent hgood => ?_⟩
    · have hmet := hkeeps met
      cases hx : x met with
      | ok value middle =>
        rw [hx] at hmet
        rw [Run.bind_of_ok hx]
        exact hmet.trans ((hsecond value).1 middle)
      | error fault middle =>
        rw [hx] at hmet
        rw [Run.bind_of_error hx]
        exact hmet
    · cases hx : x met with
      | ok value noted =>
        rw [Run.bind_of_ok hx] at hgood ⊢
        have hnoted := (hsecond value).1 noted
        obtain ⟨houtcome, hgrows, hfaithful⟩ := hfirst session met hstands hcurrent fun r hr =>
          hgood r (hnoted.subset (by rwa [hx] at hr))
        rw [hx] at houtcome
        obtain ⟨middle, hy⟩ := Result.exists_ok houtcome
        rw [Run.after_of_ok hy] at hgrows hfaithful
        have hmiddle : middle.current = document := by
          rw [hgrows.same]
          exact hcurrent
        obtain ⟨hnext, hlater, hlast⟩ :=
          (hsecond value).2 middle noted (hstands.grows hgrows hfaithful) hmiddle hgood
        rw [Run.after_bind_of_ok hy, Run.bind_of_ok hy]
        exact ⟨hnext, hgrows.trans hlater, hlast⟩
      | error fault noted =>
        rw [Run.bind_of_error hx] at hgood ⊢
        obtain ⟨houtcome, hgrows, hfaithful⟩ := hfirst session met hstands hcurrent fun r hr =>
          hgood r (by rwa [hx] at hr)
        rw [hx] at houtcome
        obtain ⟨middle, hy⟩ := Result.exists_error houtcome
        rw [Run.after_of_error hy] at hgrows hfaithful
        rw [Run.after_bind_of_error hy, Run.bind_of_error hy]
        exact ⟨rfl, hgrows, hfaithful⟩

/-- A question gets the same answer in a session as in the recursion, if the reference that it
denotes is resolved to its result. -/
theorem agrees_answer (document : String) (hgrows : ∀ r, (resolve r).Obeys Grows)
    (h : Simulates s given outer Good resolve) (q : Schema.Question) :
    Agrees s given outer document Good TypeExpr (s.note s.result document q)
      (q.answer resolve) := by
  refine ⟨fun met => ?_, fun session met hstands hcurrent hgood => ?_⟩
  · rw [Surroundings.state_note]
    exact List.prefix_append _ _
  rw [Surroundings.state_note] at hgood
  rw [Surroundings.sameOutcome_note document q met]
  cases q with
  | malformed location reason => exact ⟨rfl, .refl session, hstands.faithful⟩
  | text format =>
    refine ⟨?_, textType_obeys format session, faithful_textType hstands.faithful format⟩
    rw [← hstands.surroundings]
    exact outcome_textType format session
  | reference target =>
    have hreference : session.reference target = Reference.parse target document := by
      rw [← hcurrent]
      rfl
    simp only [Surroundings.answer, Schema.Question.references, Schema.Question.answer] at hgood ⊢
    cases hparse : Reference.parse target document with
    | error fault =>
      have hread := Schema.readReference_of_error (hreference.trans hparse)
      rw [Run.after_bind_of_error hread, Run.bind_of_error hread]
      exact ⟨rfl, .refl session, hstands.faithful⟩
    | ok r =>
      rw [hparse] at hgood
      have hr := hgood r (List.mem_append_right _ (List.mem_singleton_self r))
      have hread := Schema.readReference_of_ok (hreference.trans hparse)
      obtain ⟨houtcome, hfaithful⟩ := h r hr session hstands
      rw [Run.after_bind_of_ok hread, Run.bind_of_ok hread]
      exact ⟨houtcome, hgrows r session, hfaithful⟩

end Agrees

/-! ## Resolutions -/

section Resolve

variable {s : Surroundings} {given : Reference → Prop} {outer : List Reference}
  {resolve : Reference → Run TypeExpr} {session : Session} {r : Reference}

/-- The target of a reference that is met is read to the type from which its result is made. -/
theorem readTarget_agrees (hgrows : ∀ r, (resolve r).Obeys Grows)
    (h : Simulates s given (outer ++ [r]) (fun inner => inner ∈ s.met s.result r) resolve)
    (hstands : Stands s given outer session) (hnew : session.registry.New r.canonical) :
    let begun := { session with
      registry := session.registry.begin r.canonical (session.defaultPolicy r) }
    Result.outcome (readTarget resolve r begun) = s.targetType s.result r ∧
      ((readTarget resolve r).after begun).registry.Faithful s given := by
  intro begun
  have hstore : begun.store = s.store := hstands.store_eq
  unfold Run.after readTarget Surroundings.targetType
  rw [hstore]
  cases hnode : s.store.resolve r with
  | error fault => exact ⟨rfl, hstands.faithful.opening hnew _⟩
  | ok node =>
    have hhas : session.store.Has r := ⟨node, by rw [hstands.store_eq]; exact hnode⟩
    obtain ⟨-, hagrees⟩ := relates_agrees.typeBy (Schema.ofJson r node)
      fun q _ => agrees_answer r.document hgrows h q
    have hmet : s.met s.result r =
        Result.state ((Schema.ofJson r node).typeBy (s.note s.result r.document) []) := by
      unfold Surroundings.met
      rw [hnode]
    obtain ⟨houtcome, -, hfaithful⟩ := hagrees (session.opening none r) []
      (hstands.opening hnew hhas) rfl fun inner hinner => hmet ▸ hinner
    rw [Surroundings.outcome_typeBy, ← Schema.elaborate_eq_typeBy] at houtcome
    rw [← Schema.elaborate_eq_typeBy] at hfaithful
    have hopening : session.opening none r = { begun with current := r.document } := rfl
    rw [hopening] at houtcome hfaithful
    simp only [Run.inDocument, bind, Except.bind]
    cases helaborated : (Schema.ofJson r node).elaborate resolve
        { begun with current := r.document } with
    | ok type after =>
      rw [helaborated] at houtcome
      rw [Run.after_of_ok helaborated] at hfaithful
      exact ⟨houtcome, hfaithful⟩
    | error fault after =>
      rw [helaborated] at houtcome
      rw [Run.after_of_error helaborated] at hfaithful
      exact ⟨houtcome, hfaithful⟩

/-- A new reference is resolved to its result. -/
theorem resolveTarget_agrees (hacyclic : s.Acyclic given) (hdistinct : s.DistinctNames given)
    (hgrows : ∀ r, (resolve r).Obeys Grows)
    (h : Simulates s given (outer ++ [r]) (fun inner => inner ∈ s.met s.result r) resolve)
    (hstands : Stands s given outer session) (hnew : session.registry.New r.canonical)
    (hreached : s.Reached given r) :
    Result.outcome (resolveTarget resolve none r session) = s.result r ∧
      ((resolveTarget resolve none r).after session).registry.Faithful s given := by
  have hresult := Surroundings.result_eq_follow hacyclic hreached
  obtain ⟨hread, hfaithful⟩ := readTarget_agrees hgrows h hstands hnew
  unfold Surroundings.follow at hresult
  rw [← hread] at hresult
  cases hbody : readTarget resolve r
      { session with registry := session.registry.begin r.canonical (session.defaultPolicy r) } with
  | error fault middle =>
    have hstep : resolveTarget resolve none r session = _ := resolveTarget_of_unread hbody
    rw [hbody] at hresult
    rw [Run.after_of_error hbody] at hfaithful
    rw [Run.after_of_error hstep, hstep]
    have hrestores := resolveTarget_error hgrows hnew hstep
    refine ⟨hresult.symm, hstands.faithful.restores hrestores.registry fun entry hentry => ?_⟩
    exact hfaithful.unnamed entry (List.mem_of_mem_take hentry)
  | ok type middle =>
    have hstep : resolveTarget resolve none r session = _ := resolveTarget_of_read hbody
    rw [hbody] at hresult
    rw [Run.after_of_ok hbody] at hfaithful
    obtain ⟨node, read, -, -, hread, rfl⟩ := readTarget_ok hgrows hbody
    obtain ⟨hmodels, hinlined, -⟩ := open_of_grows hnew hread
    have hopen : read.pending.get? r.canonical = some ⟨session.defaultPolicy r, none⟩ := by
      have hbegin := Registry.get?_pending_begin hnew (session.defaultPolicy r)
      obtain ⟨⟨policy, reserved⟩, hentry, hbecomes⟩ := hread.pending.get?_some hbegin
      obtain rfl : policy = session.defaultPolicy r := hbecomes.policy
      obtain rfl : reserved = none := hfaithful.unnamed _ (OrderedMap.mem_of_get? hentry)
      exact hentry
    have hpolicy : (session.defaultPolicy r).name r = s.defaultName r := by
      rw [defaultPolicy_name, hstands.surroundings]
    rcases materialize_spec { session with registry := read } hmodels hinlined hopen type with
      ⟨answer, after, hanswer, hcloses⟩ | ⟨fault, -, hwant⟩
    · rw [hanswer] at hstep
      obtain ⟨heq, hafter⟩ := Registry.Faithful.closes hfaithful hdistinct hreached hpolicy hopen
        hresult hcloses
      rw [Run.after_of_ok hstep, hstep]
      exact ⟨heq.symm, hafter⟩
    · have hfree := Registry.Faithful.freeName?_eq hfaithful hdistinct hreached hpolicy
      cases hfree.symm.trans (hwant rfl)

/-- Where the open references lead to one that is reached, and no cycle is, that one is not open. -/
theorem not_open_of_acyclic (hacyclic : s.Acyclic given) (hstands : Stands s given outer session)
    (hreached : s.Reached given r)
    (houter : ∀ o ∈ outer, Relation.TransGen s.Meets o r) :
    session.registry.pending.get? r.canonical = none := by
  rw [OrderedMap.get?_eq_none_iff, hstands.opened.keys]
  intro hmem
  obtain ⟨o, ho, hcanonical⟩ := List.mem_map.mp hmem
  rw [Reference.eq_of_canonical_eq hcanonical] at ho
  exact hacyclic r hreached (houter r ho)

/-- A reference that is reached is resolved to its result, if the open references are on the way
to it. -/
theorem resolveWithin_agrees (hacyclic : s.Acyclic given) (hdistinct : s.DistinctNames given)
    {bound : Nat} (hbound : s.store.nodeCount < bound + outer.length)
    (hstands : Stands s given outer session) (hreached : s.Reached given r)
    (houter : ∀ o ∈ outer, Relation.TransGen s.Meets o r) :
    Result.outcome (resolveWithin bound none r session) = s.result r ∧
      ((resolveWithin bound none r).after session).registry.Faithful s given := by
  -- One more reference is open for each one that the bound goes down.
  induction bound generalizing outer session r with
  | zero =>
    have hle := hstands.opened.length_le
    rw [hstands.store_eq] at hle
    omega
  | succ bound ih =>
    rcases answered_or_new_or_open session.registry r.canonical with
      ⟨type, hanswer⟩ | hnew | ⟨policy, -, -, hopen⟩
    · have hstep := resolveWithin_of_known (known_of_answer hanswer) (bound + 1) none
      rw [Run.after_of_ok hstep, hstep]
      exact ⟨(hstands.faithful.answer hanswer).symm, hstands.faithful⟩
    · have hsimulates : Simulates s given (outer ++ [r])
          (fun inner => inner ∈ s.met s.result r) (resolveWithin bound none) := by
        intro inner hinner later hlater
        have hmeets : s.Meets r inner := ⟨_, hinner⟩
        refine ih ?_ hlater (hreached.meets hmeets) (hmeets.lead houter)
        rw [List.length_append, List.length_singleton]
        omega
      have htarget := resolveTarget_agrees hacyclic hdistinct (resolveWithin_obeys bound none)
        hsimulates hstands hnew hreached
      unfold Run.after at htarget ⊢
      rw [resolveWithin_of_new hnew]
      exact htarget
    · rw [not_open_of_acyclic hacyclic hstands hreached houter] at hopen
      cases hopen

end Resolve

/-! ## Sequences of requests -/

/-- What a session gives for references that are resolved one after the other. -/
def outcomes : List Reference → Session → List (Except Fault TypeExpr)
  | [], _ => []
  | r :: rest, session =>
    Result.outcome (resolveReference r none session) ::
      outcomes rest ((resolveReference r none).after session)

theorem outcomes_eq_map {s : Surroundings} {given : Reference → Prop}
    (hacyclic : s.Acyclic given) (hdistinct : s.DistinctNames given) {session : Session}
    (hstands : Stands s given [] session) {requests : List Reference}
    (hgiven : ∀ r ∈ requests, given r) : outcomes requests session = requests.map s.result := by
  induction requests generalizing session with
  | nil => rfl
  | cons r rest ih =>
    obtain ⟨hr, hrest⟩ := List.forall_mem_cons.mp hgiven
    have hbound : s.store.nodeCount < session.nestingBound + ([] : List Reference).length := by
      rw [← hstands.store_eq]
      exact Nat.lt_succ_self _
    obtain ⟨houtcome, hfaithful⟩ := resolveWithin_agrees hacyclic hdistinct hbound hstands
      ⟨r, hr, .refl⟩ fun o ho => absurd ho List.not_mem_nil
    have hgrows := resolveWithin_obeys session.nestingBound none r session
    rw [outcomes, List.map_cons, ← houtcome]
    exact congrArg _ (ih (hstands.grows hgrows hfaithful) hrest)

/-- On references from which no cycle is reached, and with different default names for those that
are reached, a fresh session gives each one the result of the recursion without memory, however the
requests are ordered or repeated, and whichever of them fail.  The recursion comes to an end. -/
theorem requests_agree_with_recursion {store : Store} {root : String} {config : Config}
    {start : Session} (hstart : Session.start store root config = .ok start)
    {given : Reference → Prop} (hacyclic : start.surroundings.Acyclic given)
    (hdistinct : start.surroundings.DistinctNames given) :
    (∀ requests : List Reference, (∀ r ∈ requests, given r) →
      outcomes requests start = requests.map start.surroundings.result) ∧
    ∀ r, given r → start.surroundings.result r ≠ .error .nestingExhausted ∧
      ∀ depth, start.surroundings.store.nodeCount < depth →
        start.surroundings.direct depth r = start.surroundings.result r := by
  have hempty := registry_of_start hstart
  have hstands : Stands start.surroundings given [] start := by
    refine ⟨rfl, .nil (.of_empty hempty), ?_⟩
    rw [hempty]
    exact .empty _ _
  refine ⟨fun requests => outcomes_eq_map hacyclic hdistinct hstands, fun r hr => ?_⟩
  have hreached : start.surroundings.Reached given r := ⟨r, hr, .refl⟩
  exact ⟨Surroundings.result_ne_exhausted hacyclic hreached,
    fun depth hdepth => Surroundings.direct_eq_result hacyclic hreached hdepth⟩

/-! ## A store without cycles -/

/-- Orders that name an item and carry a note, and refunds of an order, one part of which is
missing. -/
def ledgerStore : Store :=
  ⟨[("api.json", .object [("components", .object [("schemas", .object
    [("Order", .object [("properties",
        .object [("item", sampleLink "Item"), ("note", sampleLink "Note")])]),
      ("Item", .object [("properties", .object [("title", sampleLink "Note")])]),
      ("Note", .object [("type", .string "string")]),
      ("Refund", .object [("allOf", .array [sampleLink "Order", sampleLink "Missing"])])])])])]⟩

/-- A fresh session at the store of orders. -/
def ledger : Session := ⟨"api.json", ledgerStore, .standard, "api.json", Registry.empty⟩

theorem start_ledger : start ledgerStore "api.json" .standard = .ok ledger :=
  start_of_canonical (by decide +kernel) rfl

/-- The references of the store of orders, each before those in its target. -/
def ledgerReferences : List Reference :=
  ["Refund", "Missing", "Order", "Item", "Note"].map sampleReference

/-- A refund fails, and after it an order, which the refund names, is resolved as it would have been
before. -/
theorem requests_agree_with_recursion_ledger :
    let requests := ["Refund", "Order", "Note", "Order"].map sampleReference
    outcomes requests ledger = requests.map ledger.surroundings.result ∧
      (outcomes requests ledger).map Except.isOk = [false, true, true, true] := by
  have hlinks : ∀ r ∈ ledgerReferences, ∀ inner ∈ ledger.surroundings.links r,
      inner ∈ ledgerReferences ∧
        ledgerReferences.reverse.idxOf inner < ledgerReferences.reverse.idxOf r := by
    decide +kernel
  have hacyclic : ledger.surroundings.Acyclic (· ∈ ledgerReferences) :=
    Surroundings.acyclic_of_rank (fun _ h => h) hlinks
  have hdistinct : ledger.surroundings.DistinctNames (· ∈ ledgerReferences) := by
    have hnames : ∀ r ∈ ledgerReferences, ∀ other ∈ ledgerReferences,
        ledger.surroundings.defaultName r = ledger.surroundings.defaultName other → r = other := by
      decide +kernel
    exact fun r other hr hother => hnames r (hr.mem_of_links (fun _ h => h) hlinks) other
      (hother.mem_of_links (fun _ h => h) hlinks)
  refine ⟨?_, by decide +kernel⟩
  exact (requests_agree_with_recursion start_ledger hacyclic hdistinct).1 _ (by decide +kernel)

end Session

end SchemaTypes
