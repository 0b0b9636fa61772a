import SchemaTypes.Proofs.Session.Requests

set_option autoImplicit false

/-!
# Failed resolutions

Between two calls nothing is open.  A reference whose resolution fails therefore leaves behind
nothing but helpers: what it had declared, inlined, opened and named is taken back, entry by entry,
wherever the fault arose.
-/

namespace SchemaTypes

/-- A call on a session: a request, or a type made elsewhere that is to be declared. -/
inductive Call where
  | request (request : Request)
  | materialize (r : Reference) (type : TypeExpr)

namespace Call

/-- The session after a call. -/
def perform : Call → Session → Session
  | .request asked, session => (asked.perform session).2
  | .materialize r type, session => (Session.materialize r type).after session

/-- The session after calls in order. -/
def performAll (calls : List Call) (session : Session) : Session :=
  calls.foldl (fun session call => call.perform session) session

end Call

namespace Session

theorem addModel_pending (registry : Registry) (r : Reference) (name : ModelName)
    (declaration : TypeExpr) :
    (registry.addModel r name declaration).pending = registry.pending := by
  unfold Registry.addModel
  split <;> rfl

/-- Declaring or inlining a type opens nothing. -/
theorem declare_pending (r : Reference) (policy : NamingPolicy) (type : TypeExpr)
    (session : Session) :
    ((declare r policy type).after session).registry.pending = session.registry.pending := by
  unfold Run.after declare
  cases type.qualifies with
  | false => rfl
  | true =>
    simp only [if_true, Registry.assignName_eq]
    cases session.registry.freeName? policy r with
    | none => rfl
    | some name => exact addModel_pending _ r name type

/-- Where nothing is open, a type made elsewhere is declared or inlined under the default name. -/
theorem materialize_of_quiet {session : Session} (hquiet : session.Quiet) {r : Reference}
    (hmodels : session.registry.lookup r = none) (type : TypeExpr) :
    materialize r type session = declare r (session.defaultPolicy r) type session := by
  have hfinish : session.registry.finish r.canonical = (none, session.registry) := by
    unfold Registry.finish
    rw [hquiet]
    rfl
  unfold materialize
  simp only [hmodels, hfinish]

theorem materialize_quiet {session : Session} (hquiet : session.Quiet) (r : Reference)
    (type : TypeExpr) : ((materialize r type).after session).Quiet := by
  cases hmodels : session.registry.lookup r with
  | some model =>
    unfold Run.after materialize
    simp only [hmodels]
    exact hquiet
  | none =>
    have hdeclare := declare_pending r (session.defaultPolicy r) type session
    unfold Run.after at hdeclare ⊢
    rw [materialize_of_quiet hquiet hmodels]
    exact hdeclare.trans hquiet

theorem call_quiet {session : Session} (hquiet : session.Quiet) (call : Call) :
    (call.perform session).Quiet := by
  cases call with
  | request request => exact hquiet.of_grows (Request.obeys_grows.perform request session)
  | materialize r type => exact materialize_quiet hquiet r type

/-- Between calls nothing is open. -/
theorem calls_quiet {session : Session} (hquiet : session.Quiet) (calls : List Call) :
    (Call.performAll calls session).Quiet := by
  induction calls generalizing session with
  | nil => exact hquiet
  | cons call rest ih => exact ih (call_quiet hquiet call)

/-! ## What a fault leaves behind -/

/-- Nothing has changed but the helpers that are noted. -/
def SameButHelpers (before after : Session) : Prop :=
  after = { before with
    registry := { before.registry with helpers := after.registry.helpers } }

/-- Where nothing is open, rolling back leaves nothing behind but helpers. -/
theorem Restores.sameButHelpers {before after : Session} (hquiet : before.Quiet)
    (h : before.Restores after) : before.SameButHelpers after := by
  have hpending := h.registry.pending
  rw [hquiet] at hpending
  have hregistry : after.registry =
      { before.registry with helpers := after.registry.helpers } := by
    calc after.registry
        = ⟨after.registry.models, after.registry.inlined, after.registry.pending,
            after.registry.names, after.registry.helpers⟩ := rfl
      _ = ⟨before.registry.models, before.registry.inlined, before.registry.pending,
            before.registry.names, after.registry.helpers⟩ := by
          rw [h.registry.models, h.registry.inlined, h.registry.names, hpending.eq_nil, hquiet]
  unfold SameButHelpers
  rw [← hregistry]
  exact h.same

/-- A written reference that cannot be resolved: it cannot be read, or what it means cannot be
resolved. -/
theorem restores_of_resolveSchema_error {raw : String} {policy : NamingPolicy} {fault : Fault}
    {session final : Session} (h : resolveSchema raw policy session = .error fault final) :
    session.Restores final := by
  unfold resolveSchema at h
  cases hparse : Reference.parse raw session.root with
  | error cause =>
    rw [hparse] at h
    cases h
    exact .refl session
  | ok r =>
    rw [hparse] at h
    exact resolveWithin_error h

/-- Whatever was called before on a session that started fresh, a reference whose resolution fails
leaves the session as it was, apart from the helpers noted: the declarations, the inlined types, the
open references, the taken names and the current document are the same as before. -/
theorem failed_resolution_leaves_session {store : Store} {root : String} {config : Config}
    {start : Session} (hstart : Session.start store root config = .ok start)
    (calls : List Call) :
    (∀ r policy fault after,
      resolveReference r policy (Call.performAll calls start) = .error fault after →
        (Call.performAll calls start).SameButHelpers after) ∧
    ∀ raw policy fault after,
      resolveSchema raw policy (Call.performAll calls start) = .error fault after →
        (Call.performAll calls start).SameButHelpers after := by
  have hfresh : start.Quiet := by
    unfold Quiet
    rw [registry_of_start hstart]
    rfl
  have hquiet := calls_quiet hfresh calls
  constructor
  · intro r policy fault after h
    exact (resolveWithin_error h).sameButHelpers hquiet
  · intro raw policy fault after h
    exact (restores_of_resolveSchema_error h).sameButHelpers hquiet

/-- A pair of chains has been declared when one of its users fails. -/
theorem failed_resolution_leaves_session_sample :
    ∃ fault after,
      resolveReference (sampleReference "Broken") none
          (Call.performAll [.request (.resolve (sampleReference "Label") none)] sample) =
        .error fault after ∧
      (Call.performAll [.request (.resolve (sampleReference "Label") none)]
        sample).SameButHelpers after := by
  have hempty : ((resolveReference (sampleReference "Broken") none).given
      (Call.performAll [.request (.resolve (sampleReference "Label") none)] sample)).isEmpty =
        true := by
    decide +kernel
  obtain ⟨fault, after, hfault⟩ := Run.error_of_given_isEmpty hempty
  exact ⟨fault, after, hfault, (failed_resolution_leaves_session start_sample _).1 _ _ _ _ hfault⟩

end Session

end SchemaTypes
