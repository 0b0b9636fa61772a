import SchemaTypes.Proofs.Resolve.Failures
import SchemaTypes.Proofs.Resolve.Trace
import SchemaTypes.Proofs.Store.Calls

set_option autoImplicit false

/-!
# Which place a fault names

If resolving a reference fails, the fault names a place that this came to: a reference without a
target, a node that violates one of the rules on the shape of schemas, or a reference whose target
comes to nothing but itself.  A traced step that parses only nodes which are come to fails for
nothing else.
-/

namespace SchemaTypes

theorem Traced.withLog_inj {α : Type} {log other : List Event}
    {first second : EStateM.Result Fault Session α}
    (h : withLog log first = withLog other second) : first = second := by
  cases first <;> cases second <;> cases h <;> rfl

/-! ## Faults and events -/

namespace Session

/-- The target of a reference has been read, and it comes to nothing but `null` and the name that
was fixed for the reference meanwhile. -/
inductive Unproductive (s : Surroundings) (r : Reference) : Prop
  | refused {bound : Nat} {policy given : NamingPolicy} {name : ModelName} {body : TypeExpr}
      {before after : Session} (surroundings : before.surroundings = s)
      (opened : before.registry.pending.get? r.canonical = some ⟨policy, none⟩)
      (reads : readTarget (resolveWithin bound none) r before = .ok body after)
      (reserved : after.registry.pending.get? r.canonical = some ⟨given, some name⟩)
      (unproductive : isUnproductive name.identifier body = true) : Unproductive s r

end Session

namespace Surroundings

variable {s : Surroundings} {Usual : Prop} {start r : Reference}

/-- What a fault of resolving `start` says.  In a `Usual` session an unproductive target is an
endless one. -/
inductive Blames (s : Surroundings) (Usual : Prop) (start : Reference) : Fault → Prop
  | naming (reason : String) : Blames s Usual start (.namingConflict reason)
  | exhausted : Blames s Usual start .nestingExhausted
  | unknown (document : String) : Blames s Usual start (.unknownDocument document)
  | missing {r : Reference} (meets : s.store.Meets start r) (lacks : s.store.Lacks r) :
      Blames s Usual start (.unresolvedReference r.canonical)
  | unsupported {call : Schema.Call} {raw fragment : String}
      (reaches : s.store.Reaches start call)
      (written : call.2.stringMember? "$ref" = some raw)
      (unread : Reference.parse raw call.1.document =
        .error (Reference.unsupportedFragment raw fragment)) :
      Blames s Usual start (Reference.unsupportedFragment raw fragment)
  | malformed {call : Schema.Call} {reason : String} (reaches : s.store.Reaches start call)
      (violates : Schema.Violates call.2 reason) :
      Blames s Usual start (.malformedSchema call.1.canonical reason)
  | endless {r : Reference} {node : Json} (reaches : s.store.Reaches start (r, node))
      (unproductive : Session.Unproductive s r) (endless : Usual → s.Endless r) :
      Blames s Usual start
        (.malformedSchema r.canonical "reference cycle without a concrete type")

/-- The nodes that are parsed are come to, and parsed in their own document. -/
def Notes (s : Surroundings) (start : Reference) : Event → Prop
  | .node place node current => current = place.document ∧ s.store.Reaches start (place, node)
  | _ => True

end Surroundings

/-! ## Steps that fail for nothing else -/

/-- From a log, a traced step has come to an outcome.  It has noted only nodes that are come to, and
its fault, if there is one, names such a place. -/
def Accounts (s : Surroundings) (Usual : Prop) (start : Reference) {α : Type} (log : List Event)
    (result : EStateM.Result Fault (Session × List Event) α)
    (outcome : EStateM.Result Fault Session α) : Prop :=
  ∃ more, result = Traced.withLog (log ++ more) outcome ∧
    (∀ event ∈ more, s.Notes start event) ∧
    ∀ fault final, outcome = .error fault final → s.Blames Usual start fault

/-- From a session in given surroundings and a document, a traced step notes only nodes that are
come to, and fails only with faults that name such places. -/
def Blaming (s : Surroundings) (Usual : Prop) (start : Reference) (document : String) (α : Type)
    (traced : Traced α) : Prop :=
  ∀ session log, session.surroundings = s → session.current = document →
    (Usual → session.Kept) → ∃ outcome,
      Accounts s Usual start log (traced (session, log)) outcome ∧
      ∀ value final, outcome = .ok value final → session.Grows final ∧ (Usual → final.Kept)

namespace Accounts

variable {s : Surroundings} {Usual : Prop} {start : Reference} {α : Type} {log more : List Event}
  {result : EStateM.Result Fault (Session × List Event) α}

theorem of_ok {value : α} {final : Session} (h : result = .ok value (final, log ++ more))
    (hnoted : ∀ event ∈ more, s.Notes start event) :
    Accounts s Usual start log result (.ok value final) :=
  ⟨more, h, hnoted, nofun⟩

theorem of_error {fault : Fault} {final : Session}
    (h : result = .error fault (final, log ++ more))
    (hnoted : ∀ event ∈ more, s.Notes start event) (hfault : s.Blames Usual start fault) :
    Accounts s Usual start log result (.error fault final) := by
  refine ⟨more, h, hnoted, fun other after herror => ?_⟩
  cases herror
  exact hfault

/-- A value that is given without noting anything. -/
theorem given (value : α) (final : Session) :
    Accounts s Usual start log (.ok value (final, log)) (.ok value final) :=
  ⟨[], by rw [List.append_nil]; rfl, nofun, nofun⟩

/-- A fault before anything is noted. -/
theorem fails {fault : Fault} (hfault : s.Blames Usual start fault) (final : Session) :
    Accounts s Usual start log (.error fault (final, log) : EStateM.Result Fault _ α)
      (.error fault final) := by
  refine ⟨[], by rw [List.append_nil]; rfl, nofun, fun other after herror => ?_⟩
  cases herror
  exact hfault

end Accounts

namespace Blaming

variable {s : Surroundings} {Usual : Prop} {start : Reference} {document : String} {α β : Type}

/-- A step of which nothing is noted. -/
theorem silently {step : Run α}
    (hok : ∀ session value final, (Usual → session.Kept) → step session = .ok value final →
      session.Grows final ∧ (Usual → final.Kept))
    (herror : ∀ session fault final, session.surroundings = s → session.current = document →
      step session = .error fault final → s.Blames Usual start fault) :
    Blaming s Usual start document α (Traced.silently step) :=
  fun session _ hs hcurrent hkept =>
    ⟨step session, ⟨[], by rw [List.append_nil]; rfl, nofun,
      fun fault final => herror session fault final hs hcurrent⟩,
      fun value final => hok session value final hkept⟩

theorem pure (value : α) : Blaming s Usual start document α (Pure.pure value) := by
  change Blaming s Usual start document α (Traced.silently (Pure.pure value))
  refine silently (fun session other final hkept h => ?_) (fun _ _ _ _ _ h => by cases h)
  obtain ⟨-, rfl⟩ := Run.pure_ok h
  exact ⟨.refl _, hkept⟩

theorem throw {fault : Fault} (h : s.Blames Usual start fault) :
    Blaming s Usual start document α (throw fault) := by
  change Blaming s Usual start document α (Traced.silently (MonadExcept.throw fault))
  refine silently (fun _ _ _ _ hok => by cases hok) (fun session other final _ _ herror => ?_)
  cases herror
  exact h

/-- A step after which the next one is taken for a value that can come out. -/
theorem bind_of {traced : Traced α} {next : α → Traced β} {Gives : α → Prop}
    (hstep : Blaming s Usual start document α traced)
    (hgives : ∀ session log, session.current = document → ∀ value after,
      traced (session, log) = .ok value after → Gives value)
    (hnext : ∀ value, Gives value → Blaming s Usual start document β (next value)) :
    Blaming s Usual start document β (traced >>= next) := by
  intro session log hs hcurrent hkept
  obtain ⟨outcome, ⟨first, hfirst, hnoted, herror⟩, hok⟩ := hstep session log hs hcurrent hkept
  cases outcome with
  | error fault middle =>
    exact ⟨.error fault middle,
      .of_error (Run.bind_of_error hfirst _) hnoted (herror fault middle rfl), nofun⟩
  | ok value middle =>
    obtain ⟨hgrows, hmiddle⟩ := hok value middle rfl
    have hdocument : middle.current = document := by
      rw [hgrows.same]
      exact hcurrent
    obtain ⟨last, ⟨second, hsecond, hnotedNext, herrorNext⟩, hokNext⟩ :=
      hnext value (hgives session log hcurrent value _ hfirst) middle (log ++ first)
        (hgrows.surroundings_eq.trans hs) hdocument hmiddle
    refine ⟨last, ⟨first ++ second, ?_, List.forall_mem_append.mpr ⟨hnoted, hnotedNext⟩,
      herrorNext⟩, fun result final h => ?_⟩
    · rw [Run.bind_of_ok hfirst, ← List.append_assoc]
      exact hsecond
    · obtain ⟨hlater, hfinal⟩ := hokNext result final h
      exact ⟨hgrows.trans hlater, hfinal⟩

theorem bind {traced : Traced α} {next : α → Traced β}
    (hstep : Blaming s Usual start document α traced)
    (hnext : ∀ value, Blaming s Usual start document β (next value)) :
    Blaming s Usual start document β (traced >>= next) :=
  @bind_of _ _ _ _ _ _ _ _ (fun _ => True) hstep (fun _ _ _ _ _ _ => trivial)
    fun value _ => hnext value

theorem note {event : Session → Event}
    (h : ∀ session, session.current = document → s.Notes start (event session)) :
    Blaming s Usual start document Unit (Traced.note event) := by
  intro session log _ hcurrent hkept
  refine ⟨.ok () session, .of_ok rfl (List.forall_mem_singleton.mpr (h session hcurrent)), ?_⟩
  intro value final hok
  cases hok
  exact ⟨.refl _, hkept⟩

/-! ## Nodes -/

section Nodes

variable {traced : Reference → Traced TypeExpr} {call : Schema.Call}

/-- A reference that is written at a node that is come to is read in the node's document. -/
theorem readReference (hreaches : s.store.Reaches start call)
    (hdocument : call.1.document = document) {target : String}
    (hwritten : call.2.stringMember? "$ref" = some target) :
    Blaming s Usual start document _ (Traced.silently (Schema.readReference target)) := by
  refine .silently (fun session r final hkept hok => ?_)
    (fun session fault final _ hcurrent herror => ?_)
  · obtain ⟨-, rfl⟩ := Schema.readReference_ok hok
    exact ⟨.refl _, hkept⟩
  · have hparse : Reference.parse target call.1.document = .error fault := by
      rw [hdocument, ← hcurrent]
      exact Schema.readReference_error herror
    rcases Reference.parse_error hparse with ⟨missing, rfl⟩ | ⟨fragment, rfl⟩
    · exact .unknown missing
    · exact .unsupported hreaches hwritten hparse

/-- A question of a node that is come to fails because the node violates a rule, because what it
refers to cannot be read, or because a reference fails. -/
theorem answer (h : ∀ r, s.store.Meets start r → Blaming s Usual start document _ (traced r))
    (hreaches : s.store.Reaches start call) (hdocument : call.1.document = document)
    {q : Schema.Question} (hasks : Schema.Asks call q) :
    Blaming s Usual start document _ (Traced.answer traced call.1 q) := by
  cases hasks with
  | malformed violates => exact .throw (.malformed hreaches violates)
  | text _ format =>
    refine .silently (fun session type final hkept hok => ?_)
      (fun session fault final _ _ herror =>
        absurd herror (Session.textType_ne_error format _ _ _))
    have hgrows := Session.textType_obeys format session
    rw [Run.after_of_ok hok] at hgrows
    refine ⟨hgrows, fun husual => ?_⟩
    rcases Schema.textType_ok hok with ⟨-, rfl⟩ | ⟨display, backing, path, -, rfl⟩
    · exact hkept husual
    · exact (hkept husual).recordHelper path backing
  | @reference location node target written =>
    refine .bind (.note fun _ _ => trivial) fun _ =>
      (readReference hreaches hdocument written).bind_of (fun session log hcurrent r after hok => ?_)
        h
    cases hsilent : Schema.readReference target session with
    | error fault final =>
      rw [Traced.silently_of_error hsilent] at hok
      cases hok
    | ok found final =>
      rw [Traced.silently_of_ok hsilent] at hok
      cases hok
      refine Or.inr ⟨_, hreaches, target, written, ?_⟩
      rw [hdocument, ← hcurrent]
      exact (Schema.readReference_ok hsilent).1

/-- Nodes that are come to are parsed in their document, and so are those inside them. -/
theorem supports (h : ∀ r, s.store.Meets start r → Blaming s Usual start document _ (traced r)) :
    Schema.Supports (Blaming s Usual start document)
      (fun call => s.store.Reaches start call ∧ call.1.document = document)
      (fun place node => Traced.note fun session => .node place node session.current)
      (Traced.answer traced) where
  pure := pure
  bind := bind
  calls hcall hinside := ⟨hcall.1.inside hinside, hinside.document_eq.trans hcall.2⟩
  enter := by
    rintro ⟨place, node⟩ ⟨hreaches, hdocument⟩
    exact .note fun session hcurrent => ⟨hcurrent.trans hdocument.symm, hreaches⟩
  ask hcall hasks := answer h hcall.1 hcall.2 hasks

/-- Reading the target of a reference that is met. -/
theorem readTarget (h : ∀ r document, s.store.Meets start r →
      Blaming s Usual start document _ (traced r)) {r : Reference}
    (hmeets : s.store.Meets start r) :
    Blaming s Usual start document _ (Traced.readTarget traced r) := by
  intro session log hs hcurrent hkept
  subst hs
  unfold Traced.readTarget
  cases hnode : session.store.resolve r with
  | error fault =>
    have hnoted : ∀ event ∈ [Event.target r], session.surroundings.Notes start event :=
      List.forall_mem_singleton.mpr trivial
    simp only [hnode]
    refine ⟨.error fault session, .of_error rfl hnoted ?_, nofun⟩
    rcases Store.resolve_error hnode with ⟨-, rfl⟩ | ⟨hlacks, rfl⟩
    · exact .unknown _
    · exact .missing hmeets hlacks
  | ok node =>
    have hparse : Blaming session.surroundings Usual start r.document _
        (Traced.parse traced r node) :=
      (supports fun inner hinner => h inner r.document hinner).parse node
        ⟨hmeets.reaches hnode, rfl⟩
    obtain ⟨outcome, ⟨more, htraced, hnoted, herror⟩, hok⟩ :=
      hparse { session with current := r.document } (log ++ [.target r]) rfl rfl
        fun husual => (hkept husual).moved r.document
    have hall : ∀ event ∈ .target r :: more, session.surroundings.Notes start event :=
      List.forall_mem_cons.mpr ⟨trivial, hnoted⟩
    simp only [hnode, Traced.inDocument, htraced, List.append_assoc, List.singleton_append]
    cases outcome with
    | error fault final =>
      exact ⟨.error fault { final with current := session.current },
        .of_error rfl hall (herror fault final rfl), nofun⟩
    | ok type final =>
      obtain ⟨hgrows, hfinal⟩ := hok type final rfl
      refine ⟨.ok type { final with current := session.current }, .of_ok rfl hall, ?_⟩
      intro other after hvalue
      cases hvalue
      refine ⟨⟨?_, hgrows.registry⟩, fun husual => (hfinal husual).moved session.current⟩
      rw [hgrows.same]

end Nodes

/-! ## References -/

section References

variable {bound : Nat} {r : Reference} {session : Session}

/-- What is already known is given; to get to know it fails only for want of a name.  The growth of
the session is that of the step which is followed. -/
theorem knownOr {tracedStep : Traced TypeExpr} {step : Run TypeExpr}
    (hfollows : Follows document _ (Traced.knownOr r tracedStep) step)
    (hkeeps : ∀ session value final, step session = .ok value final → session.Kept → final.Kept)
    (h : ∀ session log, session.surroundings = s → (Usual → session.Kept) →
      session.registry.New r.canonical →
        ∃ outcome, Accounts s Usual start log (tracedStep (session, log)) outcome) :
    Blaming s Usual start document _ (Traced.knownOr r tracedStep) := by
  intro session log hs _ hkept
  obtain ⟨outcome, haccounts⟩ : ∃ outcome,
      Accounts s Usual start log (Traced.knownOr r tracedStep (session, log)) outcome := by
    unfold Traced.knownOr
    cases hknown : Session.known r session with
    | error fault middle =>
      obtain ⟨reason, rfl⟩ := Session.known_error hknown
      rw [Run.bind_of_error (Traced.silently_of_error hknown log)]
      exact ⟨_, .fails (.naming reason) middle⟩
    | ok known middle =>
      rw [Run.bind_of_ok (Traced.silently_of_ok hknown log)]
      cases known with
      | some type => exact ⟨_, .given type middle⟩
      | none =>
        have hnew := Session.new_of_known hknown
        rw [Session.known_of_new hnew] at hknown
        cases hknown
        exact h session log hs hkept hnew
  obtain rfl : step session = outcome := by
    obtain ⟨more, htraced, -⟩ := haccounts
    obtain ⟨steps, hsteps, -⟩ := hfollows session log
    exact Traced.withLog_inj (hsteps.symm.trans htraced)
  refine ⟨step session, haccounts, fun value final hok => ?_⟩
  obtain ⟨steps, -, hexplains⟩ := hfollows session log
  have hgrows := hexplains.grows
  rw [Run.after_of_ok hok] at hgrows
  exact ⟨hgrows, fun husual => hkeeps session value final hok (hkept husual)⟩

/-- A new reference that is met fails because something in its target does, for want of a name, or
because its target is unproductive. -/
theorem resolveTarget (h : ∀ r document, s.store.Meets start r →
      Blaming s Usual start document _ (Traced.resolveWithin bound none r))
    (hmeets : s.store.Meets start r) (hs : session.surroundings = s)
    (hkept : Usual → session.Kept) (hnew : session.registry.New r.canonical)
    (policy : Option NamingPolicy) (log : List Event) :
    ∃ outcome, Accounts s Usual start log
      (Traced.resolveTarget (Traced.resolveWithin bound none) policy r (session, log))
      outcome := by
  subst hs
  rw [resolveTarget_traced_eq]
  generalize policy.getD (session.defaultPolicy r) = chosen
  let begun := { session with registry := session.registry.begin r.canonical chosen }
  obtain ⟨outcome, ⟨more, htraced, hnoted, herror⟩, -⟩ :=
    readTarget h hmeets begun log rfl rfl fun husual =>
      (hkept husual).begin hnew session.current chosen
  cases outcome with
  | error fault middle =>
    rw [Run.bind_of_error htraced]
    exact ⟨_, .of_error rfl hnoted (herror fault middle rfl)⟩
  | ok type middle =>
    rw [Run.bind_of_ok htraced]
    cases hclose : Session.materialize r type middle with
    | ok answer final =>
      rw [Traced.silently_of_ok hclose]
      exact ⟨_, .of_ok rfl hnoted⟩
    | error fault failed =>
      rw [Traced.silently_of_error hclose]
      refine ⟨_, .of_error rfl hnoted ?_⟩
      rcases Session.materialize_error hclose with ⟨reason, rfl⟩ |
        ⟨given, name, hreserved, hrefused, rfl⟩
      · exact .naming reason
      -- Without a log the target is read to the same type, in the same session.
      have hnested : Session.Nested (Session.resolveWithin bound none) :=
        ⟨Session.resolveWithin_obeys bound none, fun h => ⟨bound, h⟩⟩
      obtain ⟨steps, hsteps, -⟩ := readTarget_traced hnested.grows
        (fun document r => follows_resolveWithin bound none document r) r begun log
      have hread : Session.readTarget (Session.resolveWithin bound none) r begun =
          .ok type middle := Traced.withLog_inj (hsteps.symm.trans htraced)
      obtain ⟨node, -, hnode, -⟩ := Session.readTarget_ok hnested.grows hread
      have hopened : begun.registry.pending.get? r.canonical = some ⟨chosen, none⟩ :=
        Registry.get?_pending_begin hnew chosen
      have hsame : begun.surroundings = session.surroundings := rfl
      exact .endless (hmeets.reaches hnode) (.refused hsame hopened hread hreserved hrefused)
        fun husual => (hkept husual).endless_of_refused hnested hnew hread hreserved hrefused

/-- However deep references may nest, one that is met fails for nothing but what is come to. -/
theorem resolveWithin (bound : Nat) (policy : Option NamingPolicy) (r : Reference)
    (document : String) (hmeets : s.store.Meets start r) :
    Blaming s Usual start document _ (Traced.resolveWithin bound policy r) := by
  induction bound generalizing policy r document with
  | zero =>
    refine .knownOr (follows_resolveWithin 0 policy document r)
      (fun _ _ _ => Session.resolveWithin_kept) fun session log _ _ _ => ?_
    exact ⟨_, .fails .exhausted session⟩
  | succ bound ih =>
    exact .knownOr (follows_resolveWithin (bound + 1) policy document r)
      (fun _ _ _ => Session.resolveWithin_kept) fun session log hs hkept hnew =>
        resolveTarget (fun r document => ih none r document) hmeets hs hkept hnew policy log

end References

end Blaming

end SchemaTypes
