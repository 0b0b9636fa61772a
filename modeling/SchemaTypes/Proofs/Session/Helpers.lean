import SchemaTypes.Proofs.Resolve.Helpers

set_option autoImplicit false

/-!
# What the list of helpers says

A dump should list the helper behind dates just if a declaration or a given type needs it.  That is
so as long as nothing fails.  A request that fails is taken back but for its helpers, so that a date
which it has read before the fault leaves the helper listed, needed or not.  Both together are all:
the helper is listed in the end just if something needs it or some request failed after it had read
a date.
-/

namespace SchemaTypes

/-! ## Failing after a date -/

/-- Whether a reference fails after a date was read for it. -/
def Session.failsAfterDate (session : Session) (r : Reference) (policy : Option NamingPolicy) :
    Bool :=
  ((resolveReference r policy).given session).isEmpty &&
    readsDate session.nestingBound policy r session

namespace Task

/-- Whether a task fails after a date was read for it. -/
def failsAfterDate (task : Task) (session : Session) : Bool :=
  match task.naming with
  | .error _ => false
  | .ok policy => session.failsAfterDate task.location (some policy)

/-- Whether one of the tasks, carried out in order, fails after a date was read for it. -/
def someFailsAfterDate : List Task → Session → Bool
  | [], _ => false
  | task :: rest, session =>
    task.failsAfterDate session || someFailsAfterDate rest (task.perform session).2

end Task

namespace Request

/-- Whether a request, or one of its tasks, fails after a date was read for it. -/
def failsAfterDate : Request → Session → Bool
  | resolve r policy, session => session.failsAfterDate r policy
  | resolveWritten raw policy, session =>
    match Reference.parse raw session.root with
    | .ok r => session.failsAfterDate r (some policy)
    | .error _ => false
  | parse node location, session =>
    ((Session.parseNode node location).given session).isEmpty &&
      (Schema.ofJson location node).readsDate (Session.resolveWithin session.nestingBound none)
        (Session.readsDate session.nestingBound none) session
  | components, session => Task.someFailsAfterDate session.componentTasks session
  | operations, session => Task.someFailsAfterDate session.operationTasks session
  | everything, session =>
    Task.someFailsAfterDate (session.componentTasks ++ session.operationTasks) session
  | move _, _ => false

/-- Whether one of the requests, answered in order, fails after a date was read for it. -/
def someFailsAfterDate : List Request → Session → Bool
  | [], _ => false
  | request :: rest, session =>
    request.failsAfterDate session || someFailsAfterDate rest (request.perform session).2

end Request

namespace Session

/-! ## Keeping count of helpers -/

/-- What is listed besides is the helper behind dates, and it is in use or something failed after a
date was read; and what was listed, or read before such a fault, is listed. -/
structure Tallies (before : Session) (types : List TypeExpr) (after : Session) (failed : Bool) :
    Prop where
  config : after.config = before.config
  models : before.registry.models <+: after.registry.models
  listed : ∀ path backing, after.registry.Lists path backing →
    before.registry.Lists path backing ∨ before.config.Binds path backing ∧
      (after.registry.Uses types backing ∨ failed = true)
  kept : ∀ path backing, before.registry.Lists path backing ∨
    before.config.Binds path backing ∧ failed = true → after.registry.Lists path backing

namespace Tallies

variable {before middle after : Session} {types more : List TypeExpr} {failed later : Bool}

theorem refl (session : Session) : session.Tallies [] session false where
  config := rfl
  models := List.prefix_rfl
  listed _ _ h := Or.inl h
  kept _ _ h := h.resolve_right fun hfailed => Bool.false_ne_true hfailed.2

theorem append (first : before.Tallies types middle failed)
    (second : middle.Tallies more after later) :
    before.Tallies (types ++ more) after (failed || later) where
  config := second.config.trans first.config
  models := first.models.trans second.models
  listed := by
    intro path backing hlisted
    rcases second.listed path backing hlisted with hmiddle | ⟨hbinds, huses⟩
    · refine (first.listed path backing hmiddle).imp_right fun ⟨hbinds, huses⟩ => ⟨hbinds, ?_⟩
      refine huses.imp (fun h => ?_) fun h => by rw [h, Bool.true_or]
      exact h.mono second.models fun _ hmem => List.mem_append_left _ hmem
    · rw [first.config] at hbinds
      refine Or.inr ⟨hbinds, huses.imp (fun h => ?_) fun h => by rw [h, Bool.or_true]⟩
      exact h.mono List.prefix_rfl fun _ hmem => List.mem_append_right _ hmem
  kept := by
    intro path backing h
    apply second.kept
    rcases h with hlisted | ⟨hbinds, hfailed⟩
    · exact Or.inl (first.kept path backing (Or.inl hlisted))
    · rcases (Bool.or_eq_true _ _).mp hfailed with hfirst | hsecond
      · exact Or.inl (first.kept path backing (Or.inr ⟨hbinds, hfirst⟩))
      · rw [← first.config] at hbinds
        exact Or.inr ⟨hbinds, hsecond⟩

/-- A step that accounts for its helpers where it succeeds, and that lists them just if it reads a
date, tallies. -/
theorem of_step {step : Run TypeExpr} {session : Session} {date : Bool}
    (haccounts : ∀ type final, step session = .ok type final → session.Accounts [type] final)
    (hgrows : step.Obeys Grows) (hlists : session.ListsBesides (step.after session) date) :
    session.Tallies (step.given session) (step.after session)
      ((step.given session).isEmpty && date) where
  config := hlists.config
  models := (hgrows session).registry.models
  listed := by
    intro path backing hlisted
    rcases (hlists.lists path backing).mp hlisted with hbefore | ⟨hdate, hbinds⟩
    · exact Or.inl hbefore
    cases h : step session with
    | ok type final =>
      have hgiven : step.given session = [type] := by
        unfold Run.given
        rw [h]
      rw [Run.after_of_ok h] at hlisted ⊢
      rw [hgiven]
      exact ((haccounts type final h).listed path backing hlisted).imp_right fun huses =>
        ⟨hbinds, Or.inl huses⟩
    | error fault final =>
      have hgiven : step.given session = [] := by
        unfold Run.given
        rw [h]
      rw [hgiven, hdate]
      exact Or.inr ⟨hbinds, Or.inr rfl⟩
  kept := by
    rintro path backing (hlisted | ⟨hbinds, hfailed⟩)
    · exact hlists.mono hlisted
    · rw [Bool.and_eq_true] at hfailed
      exact (hlists.lists path backing).mpr (Or.inr ⟨hfailed.2, hbinds⟩)

end Tallies

/-! ## Requests -/

theorem tallies_resolveReference (session : Session) (r : Reference)
    (policy : Option NamingPolicy) :
    session.Tallies ((resolveReference r policy).given session)
      ((resolveReference r policy).after session) (session.failsAfterDate r policy) :=
  .of_step (fun _ _ h => resolveWithin_accounts h)
    (fun session => resolveWithin_obeys session.nestingBound policy r session)
    (resolveWithin_listsBesides session.nestingBound policy r session)

theorem tallies_resolveSchema (session : Session) (raw : String) (policy : NamingPolicy) :
    session.Tallies ((resolveSchema raw policy).given session)
      ((resolveSchema raw policy).after session)
      (Request.failsAfterDate (.resolveWritten raw policy) session) := by
  rw [Request.failsAfterDate]
  unfold Run.given Run.after resolveSchema
  cases Reference.parse raw session.root with
  | error fault => exact .refl session
  | ok r => exact tallies_resolveReference session r (some policy)

theorem tallies_parseNode (session : Session) (node : Json) (location : Reference) :
    session.Tallies ((parseNode node location).given session)
      ((parseNode node location).after session)
      (Request.failsAfterDate (.parse node location) session) :=
  .of_step (fun _ _ h => elaborate_accounts (Schema.ofJson_plain location node) h)
    (fun session => elaborate_obeys (resolveWithin_obeys session.nestingBound none) _ session)
    (Schema.elaborate_listsBesides (resolveWithin_listsBesides session.nestingBound none) _ session)

/-- What a task gives is the type of the reference that it asks for. -/
theorem tallies_task (session : Session) (task : Task) :
    session.Tallies
      ((Report.ofOutcomes [(task.perform session).1]).artifacts.map Artifact.type)
      (task.perform session).2 (task.failsAfterDate session) := by
  unfold Task.perform Task.failsAfterDate
  cases task.naming with
  | error fault => exact .refl session
  | ok policy =>
    have htallies := tallies_resolveReference session task.location (some policy)
    unfold Run.given Run.after at htallies
    simp only
    cases h : resolveReference task.location (some policy) session with
    | ok type after =>
      rw [h] at htallies
      exact htallies
    | error fault after =>
      rw [h] at htallies
      exact htallies

theorem tallies_tasks (session : Session) (tasks : List Task) :
    session.Tallies
      ((Report.ofOutcomes (Task.performAll tasks session).1).artifacts.map Artifact.type)
      (Task.performAll tasks session).2 (Task.someFailsAfterDate tasks session) := by
  induction tasks generalizing session with
  | nil => exact .refl session
  | cons task rest ih =>
    have hfirst := tallies_task session task
    have hrest := ih (task.perform session).2
    have htypes : (Report.ofOutcomes (Task.performAll (task :: rest) session).1).artifacts.map
        Artifact.type =
        (Report.ofOutcomes [(task.perform session).1]).artifacts.map Artifact.type ++
          (Report.ofOutcomes (Task.performAll rest (task.perform session).2).1).artifacts.map
            Artifact.type := by
      rw [← List.map_append]
      unfold Report.ofOutcomes
      rw [← List.filterMap_append]
      rfl
    rw [htypes]
    exact hfirst.append hrest

theorem tallies_request (session : Session) (request : Request) :
    session.Tallies (request.perform session).1 (request.perform session).2
      (request.failsAfterDate session) := by
  cases request with
  | resolve r policy => exact tallies_resolveReference session r policy
  | resolveWritten raw policy => exact tallies_resolveSchema session raw policy
  | parse node location => exact tallies_parseNode session node location
  | components => exact tallies_tasks session _
  | operations => exact tallies_tasks session _
  | everything => exact tallies_tasks session _
  | move document =>
    exact ⟨rfl, List.prefix_rfl, fun _ _ h => Or.inl h,
      fun _ _ h => h.resolve_right fun hfailed => Bool.false_ne_true hfailed.2⟩

/-- Whatever is requested, the list of helpers says what is in use and what was read in vain. -/
theorem tallies_requests (session : Session) (requests : List Request) :
    session.Tallies (Request.performAll requests session).1 (Request.performAll requests session).2
      (Request.someFailsAfterDate requests session) := by
  induction requests generalizing session with
  | nil => exact .refl session
  | cons request rest ih => exact (tallies_request session request).append (ih _)

/-- However requests come out, the helpers behind declarations and inlined types are noted. -/
theorem obeys_supported (date : ProvidedType) :
    Request.Obeys fun before after => before.Supported date → after.Supported date :=
  obeys_of_invariant (fun hrestores h => h.restores hrestores)
    (fun hresolve h => (resolveWithin_supported hresolve h).1)
    fun _ _ h => h.mono rfl rfl rfl fun _ _ hnoted => hnoted

theorem gives_supported (date : ProvidedType) :
    Request.Gives (Supported date) fun session type => session.registry.Supports date type where
  obeys := obeys_supported date
  mono hgrows h := h.mono hgrows.helpers
  elaborated hplain h hsession :=
    ((conveys_supported (fun r => resolveWithin_obeys _ none r)
      fun _ _ _ _ hresolve => resolveWithin_supported hresolve).elaborate hplain h hsession).2
  resolved h hsession := (resolveWithin_supported h hsession).2

theorem config_of_start {store : Store} {root : String} {config : Config} {session : Session}
    (h : start store root config = .ok session) : session.config = config := by
  unfold start at h
  split at h
  · cases h
  · split at h
    · cases h
      rfl
    · cases h

/-- Whatever was requested of a session that started fresh: the dump lists a helper under an import
path just if they are those of the configured date type and, besides, a declaration of the dump or a
type that was given needs the helper, or some request failed after it had read a date. -/
theorem helpers_are_in_use_or_left_by_failures {store : Store} {root : String} {config : Config}
    {start : Session} (hstart : Session.start store root config = .ok start)
    (requests : List Request) (path backing : String) :
    let types := (Request.performAll requests start).1
    let dump := (Request.performAll requests start).2.registry.dump
    (∃ entry ∈ dump.helpers, entry.1 = path ∧ backing ∈ entry.2) ↔
      (path = config.dateType.importPath ∧ backing = config.dateType.backingName) ∧
        ((∃ entry ∈ dump.models, backing ∈ entry.2.declaration.backings) ∨
          (∃ type ∈ types, backing ∈ type.backings) ∨
          Request.someFailsAfterDate requests start = true) := by
  intro types dump
  have hempty := registry_of_start hstart
  have hconfig := config_of_start hstart
  have htallies := tallies_requests start requests
  constructor
  · intro hlisted
    rcases htallies.listed path backing hlisted with hbefore | ⟨hbinds, huses⟩
    · rw [hempty] at hbefore
      exact absurd hbefore (Registry.not_lists_empty path backing)
    · rw [hconfig] at hbinds
      exact ⟨hbinds, or_assoc.mp huses⟩
  · rintro ⟨hbinds, huses⟩
    have hfresh : start.Supported config.dateType := by
      rw [← hconfig]
      exact .of_empty hempty
    have hlisted : ∀ type, (Request.performAll requests start).2.registry.Supports
        config.dateType type → backing ∈ type.backings →
          (Request.performAll requests start).2.registry.Lists path backing := by
      intro type hsupports hmem
      rw [hbinds.1]
      exact (hsupports backing hmem).2.lists
    rcases huses with ⟨entry, hentry, hmem⟩ | ⟨type, htype, hmem⟩ | hfailed
    · have hdeclared := ((obeys_supported _).performAll requests start hfresh).declared
      exact hlisted _ (hdeclared entry hentry) hmem
    · exact hlisted type ((gives_supported _).performAll requests hfresh type htype) hmem
    · rw [← hconfig] at hbinds
      exact htallies.kept path backing (Or.inr ⟨hbinds, hfailed⟩)

/-! ## A date that is read in vain -/

/-- A schema with a date and a part that is missing. -/
def datedStore : Store :=
  ⟨[("api.json", .object [("components", .object [("schemas", .object
    [("Broken", .object [("properties", .object
      [("d", .object [("type", .string "string"), ("format", .string "date")]),
        ("x", sampleLink "Missing")])])])])])]⟩

/-- A fresh session at this schema. -/
def dated : Session := ⟨"api.json", datedStore, .standard, "api.json", Registry.empty⟩

theorem start_dated : start datedStore "api.json" .standard = .ok dated :=
  start_of_canonical (by decide +kernel) rfl

/-- Nothing comes of the schema, but its date has been read. -/
theorem helpers_are_in_use_or_left_by_failures_dated :
    let requests := [Request.resolve (sampleReference "Broken") none]
    let dump := (Request.performAll requests dated).2.registry.dump
    (Request.performAll requests dated).1 = [] ∧ dump.models.isEmpty = true ∧
      Request.someFailsAfterDate requests dated = true ∧
      ∃ entry ∈ dump.helpers, entry.1 = "runtime/temporal" ∧ "DateString" ∈ entry.2 := by
  intro requests dump
  have hnothing : (Request.performAll requests dated).1.isEmpty = true := by decide +kernel
  have hmodels : dump.models.isEmpty = true := by decide +kernel
  have hfailed : Request.someFailsAfterDate requests dated = true := by decide +kernel
  refine ⟨List.isEmpty_iff.mp hnothing, hmodels, hfailed, ?_⟩
  exact (helpers_are_in_use_or_left_by_failures start_dated requests _ _).mpr
    ⟨⟨rfl, rfl⟩, Or.inr (Or.inr hfailed)⟩

/-- A helper can be listed that nothing uses. -/
theorem helpers_need_not_be_in_use :
    ¬ ∀ (store : Store) (root : String) (config : Config) (start : Session),
      Session.start store root config = .ok start →
        ∀ (requests : List Request) (path backing : String),
          let types := (Request.performAll requests start).1
          let dump := (Request.performAll requests start).2.registry.dump
          (∃ entry ∈ dump.helpers, entry.1 = path ∧ backing ∈ entry.2) ↔
            (path = config.dateType.importPath ∧ backing = config.dateType.backingName) ∧
              ((∃ entry ∈ dump.models, backing ∈ entry.2.declaration.backings) ∨
                ∃ type ∈ types, backing ∈ type.backings) := by
  intro h
  let requests := [Request.resolve (sampleReference "Broken") none]
  have hlisted : ∃ entry ∈ (Request.performAll requests dated).2.registry.dump.helpers,
      entry.1 = "runtime/temporal" ∧ "DateString" ∈ entry.2 := by
    decide +kernel
  have hunused : ¬ ((∃ entry ∈ (Request.performAll requests dated).2.registry.dump.models,
        "DateString" ∈ entry.2.declaration.backings) ∨
      ∃ type ∈ (Request.performAll requests dated).1, "DateString" ∈ type.backings) := by
    decide +kernel
  exact hunused ((h _ _ _ _ start_dated requests _ _).mp hlisted).2

end Session

end SchemaTypes
