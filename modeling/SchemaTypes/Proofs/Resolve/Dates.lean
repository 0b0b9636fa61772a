import SchemaTypes.Proofs.Registry.Helpers
import SchemaTypes.Proofs.Resolve.Nesting

set_option autoImplicit false

/-!
# Dates that are read

The only helper that is ever noted is the one of the configured date type, and it is noted as soon
as a string of a temporal format is read: before it is known whether the node around it can be read,
and for good, since rolling back keeps helpers.  `readsDate` says of a resolution, from where it
starts, whether such a string is come to; it follows the answers to the questions of a target up to
the first fault.  Helpers are listed after a resolution accordingly, whatever its outcome.
-/

namespace SchemaTypes

/-! ## What is listed besides -/

/-- Whether a helper is the one behind dates. -/
def Config.Binds (config : Config) (path backing : String) : Prop :=
  path = config.dateType.importPath ∧ backing = config.dateType.backingName

/-- The session is still configured as it was, and what is listed besides is the helper behind
dates, if a date was read. -/
structure Session.ListsBesides (before after : Session) (date : Bool) : Prop where
  config : after.config = before.config
  lists : ∀ path backing, after.registry.Lists path backing ↔
    before.registry.Lists path backing ∨ date = true ∧ before.config.Binds path backing

namespace Session.ListsBesides

variable {before middle after : Session} {date later : Bool}

/-- Where configuration and helpers stay, no date was read. -/
theorem of_same (hconfig : after.config = before.config)
    (hhelpers : after.registry.helpers = before.registry.helpers) :
    before.ListsBesides after false := by
  refine ⟨hconfig, fun path backing => ?_⟩
  unfold Registry.Lists Registry.dump
  rw [hhelpers]
  simp

theorem refl (session : Session) : session.ListsBesides session false := of_same rfl rfl

theorem trans (first : before.ListsBesides middle date) (second : middle.ListsBesides after later) :
    before.ListsBesides after (date || later) := by
  refine ⟨second.config.trans first.config, fun path backing => ?_⟩
  rw [second.lists, first.lists, first.config, Bool.or_eq_true, or_and_right, or_assoc]

/-- What was listed before is listed still. -/
theorem mono (h : before.ListsBesides after date) {path backing : String}
    (hlisted : before.registry.Lists path backing) : after.registry.Lists path backing :=
  (h.lists path backing).mpr (Or.inl hlisted)

end Session.ListsBesides

/-! ## Dates in schemas -/

/-- Steps of a session that note whether a date has been read. -/
abbrev Dating (α : Type) := EStateM Fault (Session × Bool) α

namespace Schema

/-- The outcome of a step, and whether a date has been read. -/
def dated {α : Type} (date : Bool) :
    EStateM.Result Fault Session α → EStateM.Result Fault (Session × Bool) α
  | .ok value after => .ok value (after, date)
  | .error fault after => .error fault (after, date)

/-- Whether a date is read for the answer to a question; `reads` says so of references. -/
def Question.readsDate (reads : Reference → Session → Bool) (session : Session) : Question → Bool
  | malformed _ _ => false
  | reference target =>
    match session.reference target with
    | .ok r => reads r session
    | .error _ => false
  | text none => false
  | text (some format) => session.config.isTemporal format

/-- The answer to a question, with a note if a date is read for it. -/
def Question.date (resolve : Reference → Run TypeExpr) (reads : Reference → Session → Bool)
    (q : Question) : Dating TypeExpr :=
  fun (session, date) => dated (date || q.readsDate reads session) (q.answer resolve session)

/-- Whether a date is read while a schema is elaborated, up to the first fault. -/
def readsDate (resolve : Reference → Run TypeExpr) (reads : Reference → Session → Bool)
    (schema : Schema) (session : Session) : Bool :=
  match schema.typeBy (Question.date resolve reads) (session, false) with
  | .ok _ after => after.2
  | .error _ after => after.2

/-- A dating step comes out as the step itself, and notes whether helpers are listed besides. -/
def Dates (α : Type) (x : Dating α) (y : Run α) : Prop :=
  ∀ session date, ∃ more, x (session, date) = dated (date || more) (y session) ∧
    session.ListsBesides (y.after session) more

theorem relates_dates : Relates Dates where
  pure value session date := ⟨false, by rw [Bool.or_false]; rfl, .refl session⟩
  bind := by
    intro α β x y f g hfirst hsecond session date
    obtain ⟨more, hx, hmore⟩ := hfirst session date
    cases hy : y session with
    | error fault middle =>
      rw [hy] at hx
      rw [Run.after_of_error hy] at hmore
      rw [Run.after_bind_of_error hy, Run.bind_of_error hy]
      refine ⟨more, ?_, hmore⟩
      rw [Run.bind_of_error hx]
      rfl
    | ok value middle =>
      rw [hy] at hx
      rw [Run.after_of_ok hy] at hmore
      obtain ⟨later, hf, hlater⟩ := hsecond value middle (date || more)
      rw [Run.after_bind_of_ok hy, Run.bind_of_ok hy]
      refine ⟨more || later, ?_, hmore.trans hlater⟩
      rw [Run.bind_of_ok hx, ← Bool.or_assoc]
      exact hf

section Elaborating

variable {resolve : Reference → Run TypeExpr} {reads : Reference → Session → Bool}

/-- A string of a temporal format lists the helper behind dates. -/
theorem textType_listsBesides (format : Option String) (session : Session) :
    session.ListsBesides ((textType format).after session)
      ((Question.text format).readsDate reads session) := by
  unfold Run.after textType
  cases format with
  | none => exact .refl session
  | some format =>
    rw [Question.readsDate]
    cases htemporal : session.config.isTemporal format with
    | false =>
      simp only [htemporal, Bool.false_eq_true, if_false]
      exact .refl session
    | true =>
      simp only [htemporal, if_true]
      refine ⟨rfl, fun path backing => ?_⟩
      rw [Registry.lists_recordHelper, eq_self, true_and]
      exact Iff.rfl

theorem answer_listsBesides
    (h : ∀ r (session : Session),
      session.ListsBesides ((resolve r).after session) (reads r session))
    (q : Question) (session : Session) :
    session.ListsBesides ((q.answer resolve).after session) (q.readsDate reads session) := by
  cases q with
  | malformed location reason => exact .refl session
  | text format => exact textType_listsBesides format session
  | reference target =>
    rw [Question.readsDate]
    cases hread : session.reference target with
    | ok r =>
      rw [Question.answer, Run.after_bind_of_ok (readReference_of_ok hread)]
      exact h r session
    | error fault =>
      rw [Question.answer, Run.after_bind_of_error (readReference_of_error hread)]
      exact .refl session

/-- While a schema is elaborated, the helper behind dates is listed if a date is read. -/
theorem elaborate_listsBesides
    (h : ∀ r (session : Session),
      session.ListsBesides ((resolve r).after session) (reads r session))
    (schema : Schema) (session : Session) :
    session.ListsBesides ((schema.elaborate resolve).after session)
      (schema.readsDate resolve reads session) := by
  have hanswer : ∀ q ∈ schema.questions,
      Dates TypeExpr (q.date resolve reads) (q.answer resolve) :=
    fun q _ session date => ⟨q.readsDate reads session, rfl, answer_listsBesides h q session⟩
  obtain ⟨more, hdated, hmore⟩ := relates_dates.typeBy schema hanswer session false
  have hreads : schema.readsDate resolve reads session = more := by
    unfold readsDate
    rw [hdated, Bool.false_or]
    cases schema.typeBy (Question.answer resolve) session <;> rfl
  rw [elaborate_eq_typeBy, hreads]
  exact hmore

end Elaborating

end Schema

/-! ## Dates in targets -/

namespace Session

/-- To look up what is known of a reference reads no date. -/
theorem known_listsBesides (r : Reference) (session : Session) :
    session.ListsBesides ((known r).after session) false := by
  rcases answered_or_new_or_open session.registry r.canonical with
    ⟨type, hanswer⟩ | hnew | ⟨policy, hmodels, hinlined, hopen⟩
  · rw [Run.after_of_ok (known_of_answer hanswer)]
    exact .refl session
  · rw [Run.after_of_ok (known_of_new hnew)]
    exact .refl session
  · rcases known_of_open hmodels hinlined hopen with ⟨name, -, hname⟩ | ⟨fault, hfault⟩
    · rw [Run.after_of_ok hname]
      exact .of_same rfl rfl
    · rw [Run.after_of_error hfault]
      exact .refl session

section Target

variable {resolve : Reference → Run TypeExpr} {reads : Reference → Session → Bool}

/-- Whether a date is read in the target of a reference, in a session in which it is open. -/
def targetReadsDate (resolve : Reference → Run TypeExpr) (reads : Reference → Session → Bool)
    (r : Reference) (opened : Session) : Bool :=
  match opened.store.resolve r with
  | .ok node =>
    (Schema.ofJson r node).readsDate resolve reads { opened with current := r.document }
  | .error _ => false

theorem readTarget_listsBesides
    (h : ∀ r (session : Session), session.ListsBesides ((resolve r).after session)
      (reads r session))
    (r : Reference) (session : Session) :
    session.ListsBesides ((readTarget resolve r).after session)
      (targetReadsDate resolve reads r session) := by
  unfold Run.after readTarget targetReadsDate
  cases session.store.resolve r with
  | error fault => exact .refl session
  | ok node =>
    have hread := Schema.elaborate_listsBesides h (Schema.ofJson r node)
      { session with current := r.document }
    simp only [Run.inDocument]
    cases helaborate : (Schema.ofJson r node).elaborate resolve
        { session with current := r.document } with
    | ok type after =>
      rw [Run.after_of_ok helaborate] at hread
      exact ⟨hread.config, hread.lists⟩
    | error fault after =>
      rw [Run.after_of_error helaborate] at hread
      exact ⟨hread.config, hread.lists⟩

/-- To open a new reference, read its target and close it lists the helper behind dates if a date is
read in the target, also if that is undone. -/
theorem resolveTarget_listsBesides (hgrows : ∀ r, (resolve r).Obeys Grows)
    (h : ∀ r (session : Session), session.ListsBesides ((resolve r).after session)
      (reads r session))
    {r : Reference} {session : Session} (hnew : session.registry.New r.canonical)
    (policy : Option NamingPolicy) :
    session.ListsBesides ((resolveTarget resolve policy r).after session)
      (targetReadsDate resolve reads r (session.opening policy r)) := by
  let begun := { session with
    registry := session.registry.begin r.canonical (policy.getD (session.defaultPolicy r)) }
  have hread : session.ListsBesides ((readTarget resolve r).after begun)
      (targetReadsDate resolve reads r (session.opening policy r)) := by
    have hbegun := readTarget_listsBesides h r begun
    exact ⟨hbegun.config, hbegun.lists⟩
  have hopened := readTarget_obeys hgrows r begun
  cases htarget : readTarget resolve r begun with
  | error fault middle =>
    rw [Run.after_of_error htarget] at hread
    rw [Run.after_of_error (resolveTarget_of_unread htarget)]
    exact ⟨hread.config, hread.lists⟩
  | ok type middle =>
    rw [Run.after_of_ok htarget] at hread hopened
    obtain ⟨hmodels, hinlined, entry, hopen⟩ := open_of_grows hnew hopened.registry
    have hclose := resolveTarget_of_read htarget
    rcases materialize_spec middle hmodels hinlined hopen type with
      ⟨answer, after, hgiven, hcloses⟩ | ⟨fault, hfault, -⟩
    · rw [hgiven] at hclose
      rw [Run.after_of_ok hclose, ← Bool.or_false (targetReadsDate _ _ _ _)]
      exact hread.trans (.of_same rfl hcloses.helpers_eq)
    · rw [hfault] at hclose
      rw [Run.after_of_error hclose, ← Bool.or_false (targetReadsDate _ _ _ _)]
      exact hread.trans (.of_same rfl rfl)

end Target

/-- A step that is only taken for a new reference reads a date only there. -/
theorem knownOr_listsBesides {r : Reference} {step : Run TypeExpr} {session : Session} {date : Bool}
    (h : session.registry.New r.canonical → session.ListsBesides (step.after session) date) :
    session.ListsBesides ((knownOr r step).after session)
      (match known r session with
        | .ok none _ => date
        | _ => false) := by
  have hlooked := known_listsBesides r session
  cases hknown : known r session with
  | error fault final =>
    rw [Run.after_of_error hknown] at hlooked
    unfold knownOr
    rw [Run.after_bind_of_error hknown]
    exact hlooked
  | ok type final =>
    rw [Run.after_of_ok hknown] at hlooked
    cases type with
    | some type =>
      rw [Run.after_of_ok (knownOr_of_known hknown step)]
      exact hlooked
    | none =>
      have hnew := new_of_known hknown
      unfold Run.after
      rw [knownOr_of_unknown (known_of_new hnew)]
      exact h hnew

/-- Whether a date is read while a reference is resolved: nothing is known of it yet, and one is
read in its target. -/
def readsDate : Nat → Option NamingPolicy → Reference → Session → Bool
  | 0, _, _, _ => false
  | bound + 1, policy, r, session =>
    match known r session with
    | .ok none _ =>
      targetReadsDate (resolveWithin bound none) (readsDate bound none) r (session.opening policy r)
    | _ => false

/-- Whatever comes of a reference, the helper behind dates is listed if a date was read. -/
theorem resolveWithin_listsBesides (bound : Nat) (policy : Option NamingPolicy) (r : Reference)
    (session : Session) :
    session.ListsBesides ((resolveWithin bound policy r).after session)
      (readsDate bound policy r session) := by
  induction bound generalizing policy r session with
  | zero =>
    have hnothing : session.ListsBesides
        ((throw .nestingExhausted : Run TypeExpr).after session) false := .refl session
    have hlooked := knownOr_listsBesides (r := r) fun _ => hnothing
    split at hlooked <;> exact hlooked
  | succ bound ih =>
    exact knownOr_listsBesides fun hnew =>
      resolveTarget_listsBesides (resolveWithin_obeys bound none) (ih none) hnew policy

end Session

end SchemaTypes
