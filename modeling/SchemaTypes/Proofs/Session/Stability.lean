import SchemaTypes.Proofs.Resolve.Coherence

set_option autoImplicit false

/-!
# Stable answers

An answer that was given once is given for the rest of the session: it is recorded in the registry
when it is given, and whatever is requested afterwards, under whatever policies and with whatever
faults, registries only grow.
-/

namespace SchemaTypes

namespace Request

/-! ## Asking for a reference -/

/-- Whether a request to a session with the given root document asks for the type of a reference. -/
def AsksFor (root : String) (r : Reference) : Request → Prop
  | resolve asked _ => asked = r
  | resolveWritten raw _ => Reference.parse raw root = .ok r
  | _ => False

section AsksFor

variable {session : Session} {r : Reference} {type : TypeExpr} {asked : Request}

/-- A request for a reference that gives a type resolves the reference to it. -/
theorem AsksFor.resolved (h : asked.AsksFor session.root r)
    (hgiven : (asked.perform session).1 = [type]) :
    ∃ policy, Session.resolveReference r policy session =
      .ok type (asked.perform session).2 := by
  cases asked with
  | resolve other policy =>
    obtain rfl : other = r := h
    have hgives : (Session.resolveReference other policy).given session = [type] := hgiven
    exact ⟨policy, Run.mem_given.mp (hgives ▸ List.mem_singleton_self type)⟩
  | resolveWritten raw policy =>
    have hparse : Reference.parse raw session.root = .ok r := h
    have hgives : (Session.resolveSchema raw policy).given session = [type] := hgiven
    have hresolve := Run.mem_given.mp (hgives ▸ List.mem_singleton_self type)
    unfold Session.resolveSchema at hresolve
    simp only [hparse] at hresolve
    exact ⟨some policy, hresolve⟩
  | _ => exact absurd h id

/-- A request for a reference that has an answer gives this answer, and changes nothing. -/
theorem AsksFor.perform_of_answer (h : asked.AsksFor session.root r)
    (hanswer : session.registry.answer? r.canonical = some type) :
    asked.perform session = ([type], session) := by
  have hresolve : ∀ policy, Session.resolveReference r policy session = .ok type session :=
    fun policy => Session.resolveWithin_of_answer hanswer session.nestingBound policy
  cases asked with
  | resolve other policy =>
    obtain rfl : other = r := h
    simp only [perform, Run.given, Run.after, hresolve]
  | resolveWritten raw policy =>
    have hparse : Reference.parse raw session.root = .ok r := h
    have hwritten : Session.resolveSchema raw policy session = .ok type session := by
      unfold Session.resolveSchema
      simp only [hparse]
      exact hresolve (some policy)
    simp only [perform, Run.given, Run.after, hwritten]
  | _ => exact absurd h id

end AsksFor

/-! ## What never changes -/

/-- Requests change nothing but the current document and the registry. -/
theorem obeys_same : Obeys fun before after =>
    after = { before with current := after.current, registry := after.registry } where
  refl _ := rfl
  trans := by
    intro first second third hsecond hthird
    rw [hthird, hsecond]
  text format session := by
    rw [(Session.textType_obeys format session).same]
  resolved bound policy r session := by
    rw [(Session.resolveWithin_obeys bound policy r session).same]
  moved _ _ := rfl

end Request

namespace Session

/-- In any session: a type that a request gives for a reference is what every later request for that
reference gives, under any policy and in any document, whatever is requested in between, and the
later request changes nothing.  And what is declared and inlined at any time is the beginning of
what is declared and inlined later. -/
theorem answers_are_stable (session : Session) :
    (∀ (r : Reference) (type : TypeExpr) (asked again : Request) (between : List Request),
      asked.AsksFor session.root r → again.AsksFor session.root r →
      (asked.perform session).1 = [type] →
        let later := (Request.performAll between (asked.perform session).2).2
        again.perform later = ([type], later)) ∧
    ∀ requests : List Request,
      let later := (Request.performAll requests session).2
      session.registry.models <+: later.registry.models ∧
        session.registry.inlined <+: later.registry.inlined := by
  refine ⟨fun r type asked again between hasked hagain hgiven => ?_, fun requests => ?_⟩
  · intro later
    obtain ⟨policy, hresolve⟩ := hasked.resolved hgiven
    have hanswer := (resolveWithin_found hresolve).answered
    have hkeeps := (Request.obeys_grows.performAll between (asked.perform session).2).keeps
    have hroot : later.root = session.root := by
      have hfirst := Request.obeys_same.perform asked session
      have hrest := Request.obeys_same.performAll between (asked.perform session).2
      change (Request.performAll between (asked.perform session).2).2.root = session.root
      rw [hrest, hfirst]
    refine Request.AsksFor.perform_of_answer ?_ (hkeeps.answers _ _ hanswer)
    rw [hroot]
    exact hagain
  · have hgrows := Request.obeys_grows.performAll requests session
    exact ⟨hgrows.models, hgrows.inlined⟩

/-- A node that was asked for as a written reference keeps its name when everything has been
generated, with a fault among the components, and it is asked for again under the policy of another
document. -/
theorem answers_are_stable_sample :
    let asked : Request := .resolveWritten "#/components/schemas/Node" .component
    let again : Request := .resolve (sampleReference "Node") (some (.external "other"))
    let later := (Request.performAll [.everything, .move "other.json"] (asked.perform sample).2).2
    ∃ type, (asked.perform sample).1 = [type] ∧ again.perform later = ([type], later) := by
  intro asked again later
  have hparse : (Reference.parse "#/components/schemas/Node" "api.json").toOption =
      some (sampleReference "Node") := by
    decide +kernel
  have hasked : asked.AsksFor sample.root (sampleReference "Node") := by
    change Reference.parse "#/components/schemas/Node" "api.json" = _
    cases hread : Reference.parse "#/components/schemas/Node" "api.json" with
    | error fault =>
      rw [hread] at hparse
      cases hparse
    | ok r =>
      rw [hread] at hparse
      rw [Option.some.inj hparse]
  have hlength : (asked.perform sample).1.length = 1 := by decide +kernel
  obtain ⟨type, hgiven⟩ := List.length_eq_one_iff.mp hlength
  exact ⟨type, hgiven, (answers_are_stable sample).1 _ type asked again _ hasked rfl hgiven⟩

end Session

end SchemaTypes
