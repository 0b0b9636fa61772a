import SchemaTypes.Session

set_option autoImplicit false

/-!
# Steps of a session

Three ways to speak of a step.  `Run.after` is the session that it leaves behind, whether it gives a
value or a fault.  A step obeys a relation if that session is always related to the one before.  A
step is settled by another one if the value that the first one gives is given again by the second,
in every later session, and without any change.
-/

namespace SchemaTypes.Run

variable {α β : Type} {R : Session → Session → Prop}

/-- The session after a step. -/
def after (step : Run α) (session : Session) : Session :=
  match step session with
  | .ok _ after => after
  | .error _ after => after

theorem after_of_ok {step : Run α} {session final : Session} {value : α}
    (h : step session = .ok value final) : step.after session = final := by
  unfold after
  rw [h]

theorem after_of_error {step : Run α} {session final : Session} {fault : Fault}
    (h : step session = .error fault final) : step.after session = final := by
  unfold after
  rw [h]

/-! ## Steps one after the other -/

/-- Two steps give a value only if both do. -/
theorem bind_ok {step : Run α} {next : α → Run β} {session final : Session} {value : β}
    (h : (step >>= next) session = .ok value final) :
    ∃ first middle, step session = .ok first middle ∧ next first middle = .ok value final := by
  change EStateM.bind step next session = .ok value final at h
  unfold EStateM.bind at h
  cases hstep : step session with
  | ok first middle =>
    rw [hstep] at h
    exact ⟨first, middle, rfl, h⟩
  | error fault middle =>
    rw [hstep] at h
    cases h

/-- Where the first of two computations gives a value, the second one goes on from there. -/
theorem bind_of_ok {σ : Type} {step : EStateM Fault σ α} {state middle : σ} {first : α}
    (h : step state = .ok first middle) (next : α → EStateM Fault σ β) :
    (step >>= next) state = next first middle := by
  change EStateM.bind step next state = next first middle
  unfold EStateM.bind
  rw [h]

theorem bind_of_error {σ : Type} {step : EStateM Fault σ α} {state middle : σ} {fault : Fault}
    (h : step state = .error fault middle) (next : α → EStateM Fault σ β) :
    (step >>= next) state = .error fault middle := by
  change EStateM.bind step next state = .error fault middle
  unfold EStateM.bind
  rw [h]

/-- What a second step goes on from is all that matters about the first one. -/
theorem bind_congr {step other : Run α} {session : Session} (h : step session = other session)
    (next : α → Run β) : (step >>= next) session = (other >>= next) session := by
  change EStateM.bind step next session = EStateM.bind other next session
  unfold EStateM.bind
  rw [h]

theorem after_bind_of_ok {step : Run α} {session middle : Session} {first : α}
    (h : step session = .ok first middle) (next : α → Run β) :
    (step >>= next).after session = (next first).after middle := by
  unfold after
  rw [bind_of_ok h]

theorem after_bind_of_error {step : Run α} {session middle : Session} {fault : Fault}
    (h : step session = .error fault middle) (next : α → Run β) :
    (step >>= next).after session = middle := after_of_error (bind_of_error h next)

/-- Two steps give a fault if one of them does. -/
theorem bind_error {step : Run α} {next : α → Run β} {session final : Session} {fault : Fault}
    (h : (step >>= next) session = .error fault final) :
    step session = .error fault final ∨
      ∃ first middle, step session = .ok first middle ∧ next first middle = .error fault final := by
  cases hstep : step session with
  | ok first middle =>
    rw [bind_of_ok hstep] at h
    exact Or.inr ⟨first, middle, rfl, h⟩
  | error other middle =>
    rw [bind_of_error hstep] at h
    cases h
    exact Or.inl rfl

theorem pure_ok {first value : α} {session final : Session}
    (h : (pure first : Run α) session = .ok value final) : value = first ∧ final = session := by
  cases h
  exact ⟨rfl, rfl⟩

/-! ## Obeying a relation -/

/-- A step leaves the session related to what it was. -/
def Obeys (R : Session → Session → Prop) (step : Run α) : Prop :=
  ∀ session, R session (step.after session)

theorem Obeys.pure (refl : ∀ session, R session session) (value : α) :
    (pure value : Run α).Obeys R := fun session => refl session

theorem Obeys.throw (refl : ∀ session, R session session) (fault : Fault) :
    (throw fault : Run α).Obeys R := fun session => refl session

theorem Obeys.bind (trans : ∀ ⦃a b c⦄, R a b → R b c → R a c) {step : Run α} {next : α → Run β}
    (hstep : step.Obeys R) (hnext : ∀ value, (next value).Obeys R) : (step >>= next).Obeys R := by
  intro session
  have hfirst := hstep session
  cases h : step session with
  | ok value middle =>
    rw [after_of_ok h] at hfirst
    rw [after_bind_of_ok h]
    exact trans hfirst (hnext value middle)
  | error fault middle =>
    rw [after_of_error h] at hfirst
    rw [after_bind_of_error h]
    exact hfirst

/-! ## Settling a value -/

/-- What the step gives, `again` gives in every later session, which it leaves as it is. -/
def SettledBy (R : Session → Session → Prop) (step again : Run α) : Prop :=
  ∀ session value final, step session = .ok value final →
    R session final ∧ ∀ later, R final later → again later = .ok value later

theorem SettledBy.pure (refl : ∀ session, R session session) (value : α) :
    (pure value : Run α).SettledBy R (pure value) := by
  intro session other final h
  obtain ⟨rfl, rfl⟩ := pure_ok h
  exact ⟨refl _, fun later _ => rfl⟩

theorem SettledBy.bind (trans : ∀ ⦃a b c⦄, R a b → R b c → R a c) {step again : Run α}
    {next nextAgain : α → Run β} (hstep : step.SettledBy R again)
    (hnext : ∀ value, (next value).SettledBy R (nextAgain value)) :
    (step >>= next).SettledBy R (again >>= nextAgain) := by
  intro session value final h
  obtain ⟨first, middle, hfirst, hsecond⟩ := bind_ok h
  obtain ⟨hmiddle, hagain⟩ := hstep session first middle hfirst
  obtain ⟨hfinal, hnextAgain⟩ := hnext first middle value final hsecond
  refine ⟨trans hmiddle hfinal, fun later hlater => ?_⟩
  rw [bind_of_ok (hagain later (trans hfinal hlater))]
  exact hnextAgain later hlater

end SchemaTypes.Run
