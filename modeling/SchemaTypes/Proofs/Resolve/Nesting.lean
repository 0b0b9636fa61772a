import SchemaTypes.Proofs.Reference
import SchemaTypes.Proofs.Schema.Questions
import SchemaTypes.Proofs.Session.Undo
import SchemaTypes.Proofs.Store.Places

set_option autoImplicit false

/-!
# How deep references nest

While a reference is resolved, those in its target are resolved, and so on.  The ones that are open
at any time are pairwise different, since an open one is known and is not opened again; and the
target of each but the last has been found.  A store has no more of these than it has nodes, so no
chain of nested references ever reaches a bound that is larger than this: the bound of a session is
as good as any larger one.
-/

namespace SchemaTypes

/-! ## References resolved in an elaboration -/

/-- Steps of a session that record the references resolved, each with the session at that time. -/
abbrev Recorded (α : Type) := EStateM Fault (Session × List (Reference × Session)) α

namespace Schema

/-- The outcome of a step together with a record. -/
def recorded {α : Type} (record : List (Reference × Session)) :
    EStateM.Result Fault Session α → EStateM.Result Fault (Session × List (Reference × Session)) α
  | .ok value after => .ok value (after, record)
  | .error fault after => .error fault (after, record)

/-- The answer to a question, recorded. -/
def Question.record (resolve : Reference → Run TypeExpr) (q : Question) : Recorded TypeExpr :=
  fun (session, record) =>
    recorded (record ++ (q.references session.current).map (·, session))
      (q.answer resolve session)

/-- The references resolved while a schema is elaborated, in order, each with the session from which
on it was resolved. -/
def resolved (resolve : Reference → Run TypeExpr) (schema : Schema) (session : Session) :
    List (Reference × Session) :=
  match schema.typeBy (Question.record resolve) (session, []) with
  | .ok _ after => after.2
  | .error _ after => after.2

/-- A recorded step comes out as the step itself, and records resolutions with a property. -/
def Records (Good : Reference → Session → Prop) (α : Type) (x : Recorded α) (y : Run α) : Prop :=
  ∀ session record, ∃ more, x (session, record) = recorded (record ++ more) (y session) ∧
    session.Grows (y.after session) ∧
      ∀ entry ∈ more, session.Grows entry.2 ∧ Good entry.1 entry.2

theorem relates_records (Good : Reference → Session → Prop) : Relates (Records Good) where
  pure value session record :=
    ⟨[], by rw [List.append_nil]; rfl, .refl session, fun _ h => absurd h List.not_mem_nil⟩
  bind := by
    intro α β x y f g hfirst hsecond session record
    obtain ⟨more, hx, hgrows, hmore⟩ := hfirst session record
    cases hy : y session with
    | error fault middle =>
      rw [hy] at hx
      rw [Run.after_of_error hy] at hgrows
      rw [Run.after_bind_of_error hy, Run.bind_of_error hy]
      refine ⟨more, ?_, hgrows, hmore⟩
      rw [Run.bind_of_error hx]
      rfl
    | ok value middle =>
      rw [hy] at hx
      rw [Run.after_of_ok hy] at hgrows
      obtain ⟨later, hf, hlater, hall⟩ := hsecond value middle (record ++ more)
      rw [Run.after_bind_of_ok hy, Run.bind_of_ok hy]
      refine ⟨more ++ later, ?_, hgrows.trans hlater, fun entry hentry => ?_⟩
      · rw [Run.bind_of_ok hx, ← List.append_assoc]
        exact hf
      · rcases List.mem_append.mp hentry with hmem | hmem
        · exact hmore entry hmem
        · exact ⟨hgrows.trans (hall entry hmem).1, (hall entry hmem).2⟩

/-- The session has only grown when a reference is resolved, and the reference is one that the
schema asks for. -/
theorem mem_resolved {resolve : Reference → Run TypeExpr}
    (hresolve : ∀ r, (resolve r).Obeys Session.Grows) {schema : Schema} {session : Session}
    {entry : Reference × Session} (h : entry ∈ schema.resolved resolve session) :
    session.Grows entry.2 ∧ ∃ target, Question.reference target ∈ schema.questions ∧
      entry.2.reference target = .ok entry.1 := by
  let Asked (r : Reference) (session : Session) : Prop :=
    ∃ target, Question.reference target ∈ schema.questions ∧ session.reference target = .ok r
  have hanswer : ∀ q ∈ schema.questions,
      Records Asked TypeExpr (q.record resolve) (q.answer resolve) := by
    intro q hq session record
    refine ⟨(q.references session.current).map (·, session), rfl, ?_, ?_⟩
    · cases q with
      | malformed location reason => exact .refl session
      | text format => exact Session.textType_obeys format session
      | reference target =>
        refine Run.Obeys.bind Session.Grows.trans (fun session => ?_) hresolve session
        rw [readReference_after]
        exact .refl session
    · intro entry hentry
      obtain ⟨r, hr, rfl⟩ := List.mem_map.mp hentry
      obtain ⟨target, rfl, hparse⟩ := Question.mem_references hr
      exact ⟨.refl session, target, hq, hparse⟩
  obtain ⟨more, hrecorded, -, hmore⟩ := (relates_records Asked).typeBy schema hanswer session []
  have hresolved : schema.resolved resolve session = more := by
    unfold resolved
    rw [hrecorded]
    cases schema.typeBy (Question.answer resolve) session <;> rfl
  rw [hresolved] at h
  exact hmore entry h

end Schema

namespace Session

/-! ## Open references -/

/-- The session in which the target of a reference is read. -/
def opening (policy : Option NamingPolicy) (r : Reference) (session : Session) : Session :=
  { session with
    current := r.document
    registry := session.registry.begin r.canonical (policy.getD (session.defaultPolicy r)) }

/-- The references that are open in a session: pairwise different ones, whose targets are in the
store. -/
structure Opened (outer : List Reference) (session : Session) : Prop where
  keys : session.registry.pending.keys = outer.map Reference.canonical
  nodup : outer.Nodup
  has : ∀ r ∈ outer, session.store.Has r

theorem length_pending_eq {registry : Registry} {outer : List Reference}
    (h : registry.pending.keys = outer.map Reference.canonical) :
    registry.pending.length = outer.length := by
  have hlength := congrArg List.length h
  rwa [OrderedMap.keys, List.length_map, List.length_map] at hlength

namespace Opened

variable {outer : List Reference} {session after : Session} {r : Reference}

theorem nil (h : session.Quiet) : Opened [] session where
  keys := by rw [h]; rfl
  nodup := List.nodup_nil
  has _ h := absurd h List.not_mem_nil

theorem grows (h : Opened outer session) (hgrows : session.Grows after) : Opened outer after := by
  rw [hgrows.same]
  exact ⟨hgrows.registry.pending.keys_eq.trans h.keys, h.nodup, h.has⟩

theorem length_le (h : Opened outer session) : outer.length ≤ session.store.nodeCount :=
  Store.length_le_nodeCount h.nodup h.has

/-- A new reference differs from those that are open. -/
theorem nodup_append (h : Opened outer session) (hnew : session.registry.New r.canonical) :
    (outer ++ [r]).Nodup := by
  have hnot : r ∉ outer := by
    intro hmem
    refine (OrderedMap.get?_eq_none_iff _ _).mp hnew.pending ?_
    rw [h.keys]
    exact List.mem_map_of_mem hmem
  rw [← List.concat_eq_append]
  exact h.nodup.concat hnot

theorem keys_opening (h : Opened outer session) (hnew : session.registry.New r.canonical)
    (policy : Option NamingPolicy) :
    (session.opening policy r).registry.pending.keys = (outer ++ [r]).map Reference.canonical := by
  unfold opening
  rw [Registry.begin_of_new hnew, OrderedMap.keys_append, h.keys, List.map_append]
  rfl

/-- A new reference is opened if its target is in the store. -/
theorem opening (h : Opened outer session) (hnew : session.registry.New r.canonical)
    (hhas : session.store.Has r) (policy : Option NamingPolicy) :
    Opened (outer ++ [r]) (session.opening policy r) where
  keys := h.keys_opening hnew policy
  nodup := h.nodup_append hnew
  has := List.forall_mem_append.mpr ⟨h.has, List.forall_mem_singleton.mpr hhas⟩

end Opened

/-! ## Nested references -/

/-- A reference that is about to be resolved, in its turn. -/
structure Visit where
  /-- How deep references may nest below it. -/
  bound : Nat
  policy : Option NamingPolicy
  reference : Reference
  session : Session

/-- The session in which the target of the reference is read. -/
def Visit.opened (v : Visit) : Session := v.session.opening v.policy v.reference

/-- Nothing is known of the reference of the outer visit, so its target is read, and there the
reference of the inner one is resolved. -/
structure Visit.Nests (outer inner : Visit) : Prop where
  bound : outer.bound = inner.bound + 1
  policy : inner.policy = none
  unknown : known outer.reference outer.session = .ok none outer.session
  resolved : ∃ node, outer.session.store.resolve outer.reference = .ok node ∧
    (inner.reference, inner.session) ∈
      (Schema.ofJson outer.reference node).resolved (resolveWithin inner.bound none) outer.opened

/-- A reference is visited in the course of a call from a session, while the references of other
visits are open: it is resolved by the call, or in a node that the call parses, or it is nested in
the last of the others. -/
inductive Visits (session : Session) : List Visit → Visit → Prop
  | resolve (bound : Nat) (policy : Option NamingPolicy) (r : Reference) :
      Visits session [] ⟨bound, policy, r, session⟩
  | parse {bound : Nat} {node : Json} {location r : Reference} {between : Session}
      (resolved : (r, between) ∈
        (Schema.ofJson location node).resolved (resolveWithin bound none) session) :
      Visits session [] ⟨bound, none, r, between⟩
  | nested {outer : List Visit} {last inner : Visit} (visited : Visits session outer last)
      (nests : last.Nests inner) : Visits session (outer ++ [last]) inner

theorem new_of_known {r : Reference} {session final : Session}
    (h : known r session = .ok none final) : session.registry.New r.canonical := by
  rcases answered_or_new_or_open session.registry r.canonical with
    ⟨type, hanswer⟩ | hnew | ⟨policy, hmodels, hinlined, hopen⟩
  · rw [known_of_answer hanswer] at h
    cases h
  · exact hnew
  · rcases known_of_open hmodels hinlined hopen with ⟨name, -, hname⟩ | ⟨fault, hfault⟩
    · rw [hname] at h
      cases h
    · rw [hfault] at h
      cases h

/-- Where a reference is visited, the open references are those of the outer visits, and the store
is that of the session. -/
theorem Visits.opened {session : Session} (hquiet : session.Quiet) {outer : List Visit}
    {inner : Visit} (h : session.Visits outer inner) :
    Opened (outer.map Visit.reference) inner.session ∧ inner.session.store = session.store := by
  induction h with
  | resolve => exact ⟨.nil hquiet, rfl⟩
  | parse resolved =>
    obtain ⟨hgrows, -⟩ := Schema.mem_resolved (resolveWithin_obeys _ none) resolved
    exact ⟨(Opened.nil hquiet).grows hgrows, hgrows.store_eq⟩
  | @nested outer last inner visited nests ih =>
    obtain ⟨hopened, hstore⟩ := ih
    obtain ⟨node, hnode, hresolved⟩ := nests.resolved
    obtain ⟨hgrows, -⟩ := Schema.mem_resolved (resolveWithin_obeys _ none) hresolved
    have hlast := hopened.opening (new_of_known nests.unknown) ⟨node, hnode⟩ last.policy
    rw [List.map_append]
    exact ⟨hlast.grows hgrows, hgrows.store_eq.trans hstore⟩

/-- A nested reference is the `$ref` of a part of the target in which it is resolved, relative to
the document of that target. -/
theorem Visit.Nests.exists_part {outer inner : Visit} (h : outer.Nests inner) :
    ∃ node part target, outer.session.store.resolve outer.reference = .ok node ∧
      node.Descends part ∧ part.stringMember? "$ref" = some target ∧
      Reference.parse target outer.reference.document = .ok inner.reference := by
  obtain ⟨node, hnode, hresolved⟩ := h.resolved
  obtain ⟨hgrows, target, hasked, hparse⟩ :=
    Schema.mem_resolved (resolveWithin_obeys _ none) hresolved
  obtain ⟨part, hpart, htarget⟩ := Schema.exists_part_of_mem_questions hasked
  refine ⟨node, part, target, hnode, hpart, htarget, ?_⟩
  rw [hgrows.same] at hparse
  exact hparse

/-! ## Bounds that are never reached -/

/-- Where references are open in a session over a store, two steps come out alike, and the bound on
nested references is not what they fail for. -/
def Steady (store : Store) (outer : List Reference) (α : Type) (x y : Run α) : Prop :=
  ∀ session, session.store = store → Opened outer session →
    x session = y session ∧ session.Grows (x.after session) ∧
      ∀ final, x session ≠ .error .nestingExhausted final

section Steady

variable {store : Store} {outer : List Reference} {resolve other : Reference → Run TypeExpr}

theorem relates_steady (store : Store) (outer : List Reference) :
    Schema.Relates (Steady store outer) where
  pure value session _ _ := ⟨rfl, .refl session, fun _ h => by cases h⟩
  bind := by
    intro α β x y f g hfirst hsecond session hstore hopened
    obtain ⟨heq, hgrows, hbounded⟩ := hfirst session hstore hopened
    cases hx : x session with
    | error fault middle =>
      rw [hx] at heq hbounded
      rw [Run.after_of_error hx] at hgrows
      rw [Run.after_bind_of_error hx, Run.bind_of_error hx, Run.bind_of_error heq.symm]
      refine ⟨rfl, hgrows, fun final h => ?_⟩
      cases h
      exact hbounded _ rfl
    | ok value middle =>
      rw [hx] at heq
      rw [Run.after_of_ok hx] at hgrows
      have hmiddle : middle.store = store := hgrows.store_eq.trans hstore
      obtain ⟨hnext, hlater, hnever⟩ := hsecond value middle hmiddle (hopened.grows hgrows)
      rw [Run.after_bind_of_ok hx, Run.bind_of_ok hx, Run.bind_of_ok heq.symm]
      exact ⟨hnext, hgrows.trans hlater, hnever⟩

/-! ### Faults of other causes -/

/-- Strings of a format always have a type. -/
theorem textType_ne_error (format : Option String) (fault : Fault) (session final : Session) :
    Schema.textType format session ≠ .error fault final := by
  intro h
  unfold Schema.textType at h
  split at h
  · cases h
  · split at h <;> cases h

theorem assignName_error {registry : Registry} {policy : NamingPolicy} {r : Reference}
    {fault : Fault} (h : registry.assignName policy r r.canonical = .error fault) :
    ∃ reason, fault = .namingConflict reason := by
  rw [Registry.assignName_eq] at h
  split at h
  · cases h
    exact ⟨_, rfl⟩
  · cases h

/-- To be known fails only for want of a name. -/
theorem known_error {r : Reference} {session final : Session} {fault : Fault}
    (h : known r session = .error fault final) : ∃ reason, fault = .namingConflict reason := by
  unfold known at h
  split at h
  · cases h
  · split at h
    · cases h
    · split at h
      · rename_i hreserve
        cases h
        unfold Registry.reserve at hreserve
        split at hreserve
        · cases hreserve
        · cases hreserve
        · split at hreserve
          · rename_i hassign
            cases hreserve
            exact assignName_error hassign
          · cases hreserve
      · cases h
      · cases h

theorem declare_error {r : Reference} {policy : NamingPolicy} {type : TypeExpr}
    {session final : Session} {fault : Fault}
    (h : declare r policy type session = .error fault final) :
    ∃ reason, fault = .namingConflict reason := by
  unfold declare at h
  split at h
  · split at h
    · rename_i hassign
      cases h
      exact assignName_error hassign
    · cases h
  · cases h

/-- To close a reference fails for want of a name, or because what was read for it comes to nothing
but the name that was fixed for it. -/
theorem materialize_error {r : Reference} {type : TypeExpr} {session final : Session}
    {fault : Fault} (h : materialize r type session = .error fault final) :
    (∃ reason, fault = .namingConflict reason) ∨
      ∃ policy name, session.registry.pending.get? r.canonical = some ⟨policy, some name⟩ ∧
        isUnproductive name.identifier type = true ∧
        fault = .malformedSchema r.canonical "reference cycle without a concrete type" := by
  unfold materialize at h
  split at h
  · cases h
  unfold Registry.finish at h
  cases hopen : session.registry.pending.get? r.canonical with
  | none =>
    rw [hopen] at h
    exact Or.inl (declare_error h)
  | some entry =>
    obtain ⟨policy, reserved⟩ := entry
    rw [hopen] at h
    cases reserved with
    | none => exact Or.inl (declare_error h)
    | some name =>
      simp only [declareRecursive] at h
      split at h
      · rename_i hrefused
        cases h
        exact Or.inr ⟨policy, name, rfl, hrefused, rfl⟩
      · cases h

/-! ### Steps that are steady -/

theorem steady_readReference (target : String) :
    Steady store outer Reference (Schema.readReference target) (Schema.readReference target) := by
  intro session _ _
  refine ⟨rfl, ?_, fun final h => ?_⟩
  · rw [Schema.readReference_after]
    exact .refl session
  · unfold Schema.readReference at h
    split at h
    · cases h
    · rename_i hparse
      cases h
      exact Reference.parse_ne_exhausted hparse

theorem steady_elaborate (h : ∀ r, Steady store outer TypeExpr (resolve r) (other r))
    (schema : Schema) :
    Steady store outer TypeExpr (schema.elaborate resolve) (schema.elaborate other) := by
  rw [Schema.elaborate_eq_typeBy, Schema.elaborate_eq_typeBy]
  refine (relates_steady store outer).typeBy schema fun q _ => ?_
  cases q with
  | malformed location reason =>
    exact fun session _ _ => ⟨rfl, .refl session, fun _ h => by cases h⟩
  | reference target => exact (relates_steady store outer).bind (steady_readReference target) h
  | text format =>
    exact fun session _ _ => ⟨rfl, textType_obeys format session, textType_ne_error format _ _⟩

/-- The target of a reference is read alike if references nested in it are resolved alike; without
a target there are none. -/
theorem readTarget_steady (policy : Option NamingPolicy) {r : Reference} {session : Session}
    (hopened : Opened outer session) (hnew : session.registry.New r.canonical)
    (h : ∀ inner, Steady session.store (outer ++ [r]) TypeExpr (resolve inner) (other inner)) :
    let begun := { session with
      registry := session.registry.begin r.canonical (policy.getD (session.defaultPolicy r)) }
    readTarget resolve r begun = readTarget other r begun ∧
      ∀ final, readTarget resolve r begun ≠ .error .nestingExhausted final := by
  intro begun
  unfold readTarget
  cases hnode : begun.store.resolve r with
  | error fault =>
    refine ⟨rfl, fun final hfault => ?_⟩
    cases hfault
    exact Store.resolve_ne_exhausted hnode
  | ok node =>
    obtain ⟨heq, -, hbounded⟩ := steady_elaborate h (Schema.ofJson r node)
      (session.opening policy r) rfl (hopened.opening hnew ⟨node, hnode⟩ policy)
    change Run.inDocument _ _ begun = Run.inDocument _ _ begun ∧
      ∀ final, Run.inDocument _ _ begun ≠ .error .nestingExhausted final
    unfold opening at heq hbounded
    unfold Run.inDocument
    rw [← heq]
    refine ⟨rfl, fun final hfault => ?_⟩
    split at hfault
    · cases hfault
    · rename_i helaborate
      cases hfault
      exact hbounded _ helaborate

theorem resolveTarget_steady (policy : Option NamingPolicy) {r : Reference} {session : Session}
    (hopened : Opened outer session) (hnew : session.registry.New r.canonical)
    (h : ∀ inner, Steady session.store (outer ++ [r]) TypeExpr (resolve inner) (other inner)) :
    resolveTarget resolve policy r session = resolveTarget other policy r session ∧
      ∀ final, resolveTarget resolve policy r session ≠ .error .nestingExhausted final := by
  obtain ⟨heq, hbounded⟩ := readTarget_steady policy hopened hnew h
  cases hread : readTarget resolve r
      { session with
        registry := session.registry.begin r.canonical
          (policy.getD (session.defaultPolicy r)) } with
  | error fault after =>
    rw [resolveTarget_of_unread hread, resolveTarget_of_unread (heq.symm.trans hread)]
    refine ⟨rfl, fun final hfault => ?_⟩
    cases hfault
    exact hbounded _ hread
  | ok type middle =>
    rw [resolveTarget_of_read hread, resolveTarget_of_read (heq.symm.trans hread)]
    refine ⟨rfl, fun final hfault => ?_⟩
    split at hfault
    · cases hfault
    · rename_i hclose
      cases hfault
      rcases materialize_error hclose with ⟨reason, hnaming⟩ | ⟨policy, name, -, -, hcycle⟩
      · cases hnaming
      · cases hcycle

end Steady

section Within

variable {r : Reference} {session final : Session}

theorem resolveWithin_of_known {type : TypeExpr} (h : known r session = .ok (some type) final)
    (bound : Nat) (policy : Option NamingPolicy) :
    resolveWithin bound policy r session = .ok type final := by
  cases bound <;> exact knownOr_of_known h _

theorem resolveWithin_of_fault {fault : Fault} (h : known r session = .error fault final)
    (bound : Nat) (policy : Option NamingPolicy) :
    resolveWithin bound policy r session = .error fault final := by
  cases bound <;> exact Run.bind_of_error h _

theorem resolveWithin_of_new (h : session.registry.New r.canonical) (bound : Nat)
    (policy : Option NamingPolicy) : resolveWithin (bound + 1) policy r session =
      resolveTarget (resolveWithin bound none) policy r session :=
  knownOr_of_unknown (known_of_new h) _

end Within

/-- A bound that is larger than the number of targets that can still be opened is never reached, and
any larger one does as well. -/
theorem steady_resolveWithin {store : Store} {outer : List Reference} {bound : Nat}
    (hbound : store.nodeCount < bound + outer.length) (extra : Nat)
    (policy : Option NamingPolicy) (r : Reference) :
    Steady store outer TypeExpr (resolveWithin bound policy r)
      (resolveWithin (bound + extra) policy r) := by
  -- Each nested reference uses up one of the bound and is one more of the open ones.
  induction bound generalizing outer policy r with
  | zero =>
    intro session hstore hopened
    have hle := hopened.length_le
    rw [hstore] at hle
    omega
  | succ bound ih =>
    intro session hstore hopened
    have hgrows := resolveWithin_obeys (bound + 1) policy r session
    cases hknown : known r session with
    | error fault final =>
      rw [resolveWithin_of_fault hknown, resolveWithin_of_fault hknown]
      refine ⟨rfl, hgrows, fun other hfault => ?_⟩
      cases hfault
      obtain ⟨reason, hnaming⟩ := known_error hknown
      cases hnaming
    | ok known final =>
      cases known with
      | some type =>
        rw [resolveWithin_of_known hknown, resolveWithin_of_known hknown]
        exact ⟨rfl, hgrows, fun _ hfault => by cases hfault⟩
      | none =>
        have hnew := new_of_known hknown
        have hinner : store.nodeCount < bound + (outer ++ [r]).length := by
          rw [List.length_append, List.length_singleton]
          omega
        obtain ⟨heq, hbounded⟩ := resolveTarget_steady policy hopened hnew
          fun inner => hstore ▸ ih hinner none inner
        rw [Nat.add_right_comm bound 1 extra, resolveWithin_of_new hnew, resolveWithin_of_new hnew]
        exact ⟨heq, hgrows, hbounded⟩

/-! ## Termination -/

/-- In a session between two calls, references nest no deeper than the nodes of the store allow. -/
structure WellNested (session : Session) : Prop where
  /-- Where a reference is visited, the open references are those of the outer visits.  They are
  pairwise different, and the store has their targets, so there are no more of them than nodes. -/
  opened : ∀ {outer inner}, session.Visits outer inner →
    Opened (outer.map Visit.reference) inner.session ∧
      inner.session.store = session.store ∧
      inner.session.registry.pending.length ≤ session.store.nodeCount
  /-- If its own target comes to be read, it differs from those that are open, and with it there are
  no more open references than nodes of the store, and one. -/
  innermost : ∀ {outer inner}, session.Visits outer inner →
    known inner.reference inner.session = .ok none inner.session →
      inner.opened.registry.pending.keys =
          (outer ++ [inner]).map (fun visit => visit.reference.canonical) ∧
        ((outer ++ [inner]).map Visit.reference).Nodup ∧
        inner.opened.registry.pending.length ≤ session.store.nodeCount + 1
  /-- From the target of a reference to one that is nested in it, each step goes down to a smaller
  part of the node. -/
  descends : ∀ {outer inner : Visit}, outer.Nests inner → ∃ node part target,
    outer.session.store.resolve outer.reference = .ok node ∧
    Relation.ReflTransGen
      (fun whole part => Json.Child whole part ∧ part.nodeCount < whole.nodeCount) node part ∧
    part.stringMember? "$ref" = some target ∧
    Reference.parse target outer.reference.document = .ok inner.reference
  /-- A larger bound on nested references makes no difference. -/
  resolves : ∀ extra policy r,
    resolveWithin (session.store.nodeCount + 1 + extra) policy r session =
      resolveReference r policy session
  parses : ∀ extra node location,
    (Schema.ofJson location node).elaborate
        (resolveWithin (session.store.nodeCount + 1 + extra) none) session =
      parseNode node location session
  /-- The bound is never reached. -/
  bounded : ∀ r policy final, resolveReference r policy session ≠ .error .nestingExhausted final
  writtenBounded : ∀ raw policy final,
    resolveSchema raw policy session ≠ .error .nestingExhausted final
  parseBounded : ∀ node location final,
    parseNode node location session ≠ .error .nestingExhausted final

/-- Nothing is open between two calls, so nesting starts from nothing. -/
theorem Quiet.wellNested {session : Session} (h : session.Quiet) : session.WellNested := by
  have hnil := Opened.nil h
  have hbound : session.store.nodeCount < session.nestingBound + ([] : List Reference).length :=
    Nat.lt_succ_self _
  have hresolve : ∀ extra policy r, Steady session.store [] TypeExpr
      (resolveWithin session.nestingBound policy r)
      (resolveWithin (session.nestingBound + extra) policy r) := steady_resolveWithin hbound
  have hreference : ∀ r policy final,
      resolveReference r policy session ≠ .error .nestingExhausted final :=
    fun r policy => (hresolve 0 policy r session rfl hnil).2.2
  have hparse : ∀ extra node location, Steady session.store [] TypeExpr
      ((Schema.ofJson location node).elaborate (resolveWithin session.nestingBound none))
      ((Schema.ofJson location node).elaborate
        (resolveWithin (session.nestingBound + extra) none)) :=
    fun extra node location => steady_elaborate (fun r => hresolve extra none r) _
  exact {
    opened := by
      intro outer inner hvisits
      obtain ⟨hopened, hstore⟩ := hvisits.opened h
      have hle := hopened.length_le
      rw [← length_pending_eq hopened.keys, hstore] at hle
      exact ⟨hopened, hstore, hle⟩
    innermost := by
      intro outer inner hvisits hunknown
      obtain ⟨hopened, hstore⟩ := hvisits.opened h
      have hnew := new_of_known hunknown
      have hkeys := hopened.keys_opening hnew inner.policy
      have hnodup := hopened.nodup_append hnew
      have hle := hopened.length_le
      have hlength := length_pending_eq hkeys
      rw [List.length_append, List.length_singleton, ← Visit.opened] at hlength
      rw [hstore] at hle
      refine ⟨?_, ?_, ?_⟩
      · rw [Visit.opened, hkeys]
        simp
      · rw [List.map_append]
        exact hnodup
      · omega
    descends := by
      intro outer inner hnests
      obtain ⟨node, part, target, hnode, hpart, htarget, hparsed⟩ := hnests.exists_part
      have hsmaller : Json.Child ≤ fun whole part =>
          Json.Child whole part ∧ part.nodeCount < whole.nodeCount :=
        fun _ _ hchild => ⟨hchild, hchild.nodeCount_lt⟩
      exact ⟨node, part, target, hnode, Relation.ReflTransGen.mono hsmaller _ _ hpart, htarget,
        hparsed⟩
    resolves := fun extra policy r => ((hresolve extra policy r session rfl hnil).1).symm
    parses := fun extra node location => ((hparse extra node location session rfl hnil).1).symm
    bounded := hreference
    writtenBounded := by
      intro raw policy final hfault
      unfold resolveSchema at hfault
      split at hfault
      · rename_i hraw
        cases hfault
        exact Reference.parse_ne_exhausted hraw
      · exact hreference _ _ _ hfault
    parseBounded := fun node location => (hparse 0 node location session rfl hnil).2.2 }

/-- Whatever was called before on a session that started fresh, resolving a reference comes to an
end: the open references are pairwise different and, but for the last one, name nodes of the store,
and the bound on them is never reached. -/
theorem resolution_is_well_nested {store : Store} {root : String} {config : Config}
    {start : Session} (hstart : Session.start store root config = .ok start) (calls : List Call) :
    (Call.performAll calls start).WellNested := by
  have hfresh : start.Quiet := .of_empty (registry_of_start hstart)
  exact (calls_quiet hfresh calls).wellNested

/-- A node of a chain is met again inside its own target. -/
theorem resolution_is_well_nested_sample :
    let session := Call.performAll [.request (.resolve (sampleReference "Label") none)] sample
    session.WellNested ∧ ∃ between, session.Visits
      [⟨7, none, sampleReference "Node", session⟩]
      ⟨6, none, sampleReference "Node", between⟩ := by
  intro session
  refine ⟨resolution_is_well_nested start_sample _, ?_⟩
  let node : Json := .object [("properties",
    .object [("next", sampleLink "Node"), ("label", sampleLink "Label")])]
  have hmet : sampleReference "Node" ∈
      ((Schema.ofJson (sampleReference "Node") node).resolved (resolveWithin 6 none)
        (session.opening none (sampleReference "Node"))).map Prod.fst := by
    decide +kernel
  obtain ⟨⟨r, between⟩, hresolved, rfl⟩ := List.mem_map.mp hmet
  refine ⟨between, .nested (.resolve 7 none _) ⟨rfl, rfl, ?_, node, rfl, hresolved⟩⟩
  exact known_of_new ⟨rfl, rfl, rfl⟩

end Session

end SchemaTypes
