import SchemaTypes.Proofs.Run
import SchemaTypes.Resolve

set_option autoImplicit false

/-!
# Bookkeeping

To look up what is known of a reference, to declare it and to close it are matters of the registry.
Documents do not matter to these steps: neither which ones the store has, nor which one is the
current one.
-/

namespace SchemaTypes

namespace Run

variable {α : Type}

/-- An outcome over another store and in another document. -/
def relocated (store : Store) (document : String) :
    EStateM.Result Fault Session α → EStateM.Result Fault Session α
  | .ok value after => .ok value { after with store := store, current := document }
  | .error fault after => .error fault { after with store := store, current := document }

/-- A step to which documents do not matter: it comes out the same over another store and in another
document, and changes neither. -/
def IsBookkeeping (step : Run α) : Prop :=
  ∀ session store document,
    step { session with store := store, current := document } =
      relocated store document (step session)

/-- Such a step leaves the store and the current document as they are. -/
theorem IsBookkeeping.stays {step : Run α} (h : step.IsBookkeeping) (session : Session) :
    (step.after session).store = session.store ∧
      (step.after session).current = session.current := by
  have hsame : step session = relocated session.store session.current (step session) :=
    h session session.store session.current
  cases hstep : step session with
  | ok value final =>
    rw [hstep] at hsame
    have hfinal : final = { final with store := session.store, current := session.current } :=
      (EStateM.Result.ok.inj hsame).2
    have hstore := congrArg Session.store hfinal
    have hcurrent := congrArg Session.current hfinal
    rw [after_of_ok hstep]
    exact ⟨hstore, hcurrent⟩
  | error fault final =>
    rw [hstep] at hsame
    have hfinal : final = { final with store := session.store, current := session.current } :=
      (EStateM.Result.error.inj hsame).2
    have hstore := congrArg Session.store hfinal
    have hcurrent := congrArg Session.current hfinal
    rw [after_of_error hstep]
    exact ⟨hstore, hcurrent⟩

/-- A step to which documents do not matter can be taken over another store. -/
theorem IsBookkeeping.over {step : Run α} (h : step.IsBookkeeping) {session final : Session}
    {value : α} (hstep : step session = .ok value final) (store : Store) :
    final.store = session.store ∧
      step { session with store := store } = .ok value { final with store := store } := by
  obtain ⟨hstore, hcurrent⟩ := h.stays session
  rw [after_of_ok hstep] at hstore hcurrent
  refine ⟨hstore, (h session store session.current).trans ?_⟩
  rw [hstep, ← hcurrent]
  rfl

theorem isBookkeeping_modifyRegistry (f : Registry → Registry) :
    (modifyRegistry f).IsBookkeeping := fun _ _ _ => rfl

end Run

namespace Session

theorem isBookkeeping_textType (format : Option String) :
    (Schema.textType format).IsBookkeeping := by
  intro session store document
  unfold Schema.textType
  cases format with
  | none => rfl
  | some format =>
    by_cases htemporal : session.config.isTemporal format = true
    · simp only [htemporal, if_true]
      rfl
    · simp only [htemporal, Bool.false_eq_true, if_false]
      rfl

theorem isBookkeeping_known (r : Reference) : (known r).IsBookkeeping := by
  intro session store document
  unfold known
  cases session.registry.lookup r with
  | some model => rfl
  | none =>
    cases session.registry.inlined.get? r.canonical with
    | some type => rfl
    | none =>
      cases session.registry.reserve r with
      | error fault => rfl
      | ok reserved => cases reserved <;> rfl

theorem isBookkeeping_declare (r : Reference) (policy : NamingPolicy) (type : TypeExpr) :
    (declare r policy type).IsBookkeeping := by
  intro session store document
  unfold declare
  by_cases hqualifies : type.qualifies = true
  · simp only [hqualifies, if_true]
    cases session.registry.assignName policy r r.canonical <;> rfl
  · simp only [hqualifies, Bool.false_eq_true, if_false]
    rfl

theorem isBookkeeping_declareRecursive (r : Reference) (name : ModelName) (body : TypeExpr) :
    (declareRecursive r name body).IsBookkeeping := by
  intro session store document
  unfold declareRecursive
  by_cases hunproductive : isUnproductive name.identifier body = true
  · simp only [hunproductive, if_true]
    rfl
  · simp only [hunproductive, Bool.false_eq_true, if_false]
    rfl

theorem isBookkeeping_materialize (r : Reference) (type : TypeExpr) :
    (materialize r type).IsBookkeeping := by
  intro session store document
  unfold materialize
  cases session.registry.lookup r with
  | some model => rfl
  | none =>
    obtain ⟨entry, registry⟩ := session.registry.finish r.canonical
    rcases entry with _ | ⟨policy, _ | name⟩
    · exact isBookkeeping_declare r _ type { session with registry := registry } store document
    · exact isBookkeeping_declare r policy type { session with registry := registry } store document
    · exact isBookkeeping_declareRecursive r name type { session with registry := registry } store
        document

end Session

end SchemaTypes
