import SchemaTypes.Proofs.Registry.Helpers
import SchemaTypes.Proofs.Session.Undo

set_option autoImplicit false

/-!
# Helpers in order

The import paths of the noted helpers rise, and under each path the helpers do.  Helpers are noted
where strings of a format are read; nothing else touches them, neither opening, naming and closing
references nor rolling back.  So the order is kept by everything that is resolved, with or without
success.
-/

namespace SchemaTypes

/-! ## Closing and declaring -/

namespace Registry

theorem helpers_finish (registry : Registry) (key : String) :
    (registry.finish key).2.helpers = registry.helpers := by
  unfold finish
  split <;> rfl

theorem helpers_addModel (registry : Registry) (r : Reference) (name : ModelName)
    (declaration : TypeExpr) :
    (registry.addModel r name declaration).helpers = registry.helpers := by
  unfold addModel
  split <;> rfl

end Registry

/-! ## Resolutions -/

namespace Session

/-- Sessions whose helpers rise stay so. -/
def KeepsOrder (before after : Session) : Prop :=
  before.registry.HelpersRise → after.registry.HelpersRise

theorem KeepsOrder.refl (session : Session) : session.KeepsOrder session := id

theorem KeepsOrder.trans ⦃before middle after : Session⦄ (first : before.KeepsOrder middle)
    (second : middle.KeepsOrder after) : before.KeepsOrder after := second ∘ first

theorem KeepsOrder.of_eq {before after : Session}
    (h : after.registry.helpers = before.registry.helpers) : before.KeepsOrder after :=
  fun hrise => hrise.of_eq h

theorem textType_keepsOrder (format : Option String) :
    (Schema.textType format).Obeys KeepsOrder := by
  intro session
  unfold Run.after Schema.textType
  cases format with
  | none => exact .refl session
  | some format =>
    by_cases htemporal : session.config.isTemporal format = true
    · simp only [htemporal, if_true]
      exact fun hrise => hrise.recordHelper _ _
    · simp only [htemporal, Bool.false_eq_true, if_false]
      exact .refl session

/-- To look up what is known of a reference may fix its name, and notes no helper. -/
theorem known_keepsOrder (r : Reference) : (known r).Obeys KeepsOrder := by
  intro session
  rcases answered_or_new_or_open session.registry r.canonical with
    ⟨type, hanswer⟩ | hnew | ⟨policy, hmodels, hinlined, hopen⟩
  · rw [Run.after_of_ok (known_of_answer hanswer)]
    exact .refl session
  · rw [Run.after_of_ok (known_of_new hnew)]
    exact .refl session
  · rcases known_of_open hmodels hinlined hopen with ⟨name, -, hname⟩ | ⟨fault, hfault⟩
    · rw [Run.after_of_ok hname]
      exact .of_eq rfl
    · rw [Run.after_of_error hfault]
      exact .refl session

theorem declare_keepsOrder (r : Reference) (policy : NamingPolicy) (type : TypeExpr) :
    (declare r policy type).Obeys KeepsOrder := by
  intro session
  unfold Run.after declare
  cases type.qualifies with
  | false => exact .of_eq rfl
  | true =>
    simp only [if_true, Registry.assignName_eq]
    cases session.registry.freeName? policy r with
    | none => exact .refl session
    | some name => exact .of_eq (Registry.helpers_addModel _ r name type)

theorem declareRecursive_keepsOrder (r : Reference) (name : ModelName) (body : TypeExpr) :
    (declareRecursive r name body).Obeys KeepsOrder := by
  intro session
  unfold Run.after declareRecursive
  cases isUnproductive name.identifier body with
  | true => exact .refl session
  | false => exact .of_eq (Registry.helpers_addModel _ r name _)

/-- To close a reference notes no helper. -/
theorem materialize_keepsOrder (r : Reference) (type : TypeExpr) :
    (materialize r type).Obeys KeepsOrder := by
  intro session
  have hfinish := Registry.helpers_finish session.registry r.canonical
  unfold Run.after materialize
  cases session.registry.lookup r with
  | some model => exact .refl session
  | none =>
    generalize session.registry.finish r.canonical = finished at hfinish
    obtain ⟨entry, registry⟩ := finished
    have hclosed : session.KeepsOrder { session with registry := registry } := .of_eq hfinish
    match entry with
    | none => exact hclosed.trans (declare_keepsOrder r _ type _)
    | some ⟨policy, none⟩ => exact hclosed.trans (declare_keepsOrder r policy type _)
    | some ⟨_, some name⟩ => exact hclosed.trans (declareRecursive_keepsOrder r name type _)

section Target

variable {resolve : Reference → Run TypeExpr} (h : ∀ r, (resolve r).Obeys KeepsOrder)

include h

theorem readTarget_keepsOrder (r : Reference) : (readTarget resolve r).Obeys KeepsOrder := by
  intro session
  unfold Run.after readTarget
  cases session.store.resolve r with
  | error fault => exact .refl session
  | ok node =>
    have hread := Schema.Obeys.elaborate ⟨KeepsOrder.refl, KeepsOrder.trans, textType_keepsOrder, h⟩
      (Schema.ofJson r node) { session with current := r.document }
    unfold Run.after at hread
    simp only [Run.inDocument]
    cases helaborate : (Schema.ofJson r node).elaborate resolve
        { session with current := r.document } with
    | ok type after =>
      rw [helaborate] at hread
      exact hread
    | error fault after =>
      rw [helaborate] at hread
      exact hread

/-- To open a reference, read its target and close it keeps the order, also if that is undone. -/
theorem resolveTarget_keepsOrder (policy : Option NamingPolicy) (r : Reference) :
    (resolveTarget resolve policy r).Obeys KeepsOrder := by
  intro session
  let begun := { session with
    registry := session.registry.begin r.canonical (policy.getD (session.defaultPolicy r)) }
  have hbegun : session.KeepsOrder begun := .of_eq rfl
  have hclosed := Run.Obeys.bind KeepsOrder.trans (readTarget_keepsOrder h r)
    (materialize_keepsOrder r) begun
  unfold Run.after at hclosed ⊢
  rw [resolveTarget_eq]
  cases houtcome : (readTarget resolve r >>= materialize r) begun with
  | ok answer after =>
    rw [houtcome] at hclosed
    exact hbegun.trans hclosed
  | error fault after =>
    rw [houtcome] at hclosed
    exact hbegun.trans (hclosed.trans (.of_eq rfl))

end Target

theorem knownOr_keepsOrder {step : Run TypeExpr} (h : step.Obeys KeepsOrder) (r : Reference) :
    (knownOr r step).Obeys KeepsOrder := by
  refine Run.Obeys.bind KeepsOrder.trans (known_keepsOrder r) fun type => ?_
  cases type with
  | some type => exact Run.Obeys.pure KeepsOrder.refl type
  | none => exact h

/-- Whatever comes of a reference, the helpers keep rising. -/
theorem resolveWithin_keepsOrder (bound : Nat) (policy : Option NamingPolicy) (r : Reference) :
    (resolveWithin bound policy r).Obeys KeepsOrder := by
  induction bound generalizing policy r with
  | zero => exact knownOr_keepsOrder (Run.Obeys.throw KeepsOrder.refl .nestingExhausted) r
  | succ bound ih => exact knownOr_keepsOrder (resolveTarget_keepsOrder (ih none) policy r) r

end Session

/-! ## Calls -/

/-- Whatever is requested, the helpers keep rising. -/
theorem Request.obeys_keepsOrder : Request.Obeys Session.KeepsOrder where
  refl := Session.KeepsOrder.refl
  trans := Session.KeepsOrder.trans
  text := Session.textType_keepsOrder
  resolved := Session.resolveWithin_keepsOrder
  moved _ _ := .of_eq rfl

/-- Between calls the helpers rise. -/
theorem Call.helpersRise_performAll (calls : List Call) {session : Session}
    (h : session.registry.HelpersRise) : (performAll calls session).registry.HelpersRise := by
  induction calls generalizing session with
  | nil => exact h
  | cons call rest ih =>
    refine ih ?_
    cases call with
    | request request => exact Request.obeys_keepsOrder.perform request session h
    | materialize r type => exact Session.materialize_keepsOrder r type session h

end SchemaTypes
