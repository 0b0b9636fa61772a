import SchemaTypes.Proofs.Operation.Media
import SchemaTypes.Proofs.Operation.Parameters
import SchemaTypes.Proofs.Resolve.Blame
import SchemaTypes.Proofs.Session.Generation

set_option autoImplicit false

/-!
# Located schemas

What the operations of a document ask for stands at places that the store has: the schemas that were
located, and the operations themselves where a schema was not.  A fault that a reference has no
target is only given for one without a target, so it never names the place that was asked for.
-/

namespace SchemaTypes

open Media (CarriesAt Bare schemaAt locate)

/-! ## Faults of missing targets -/

namespace Store

variable {store : Store} {config : Config} {r owner : Reference} {fault : Fault}

/-- If a fault is that a reference has no target, the store lacks that target. -/
def Warrants (store : Store) (fault : Fault) : Prop :=
  ∀ text, fault = .unresolvedReference text →
    ∃ missing : Reference, text = missing.canonical ∧ store.Lacks missing

/-- What the store has is not what such a fault names. -/
theorem Warrants.ne_unresolved (h : store.Warrants fault) (hhas : store.Has r) :
    fault ≠ .unresolvedReference r.canonical := by
  intro hfault
  obtain ⟨missing, htext, hlacks⟩ := h _ hfault
  obtain rfl := Reference.eq_of_canonical_eq htext
  obtain ⟨node, hnode⟩ := hhas
  cases hnode.symm.trans (resolve_of_lacks hlacks)

theorem warrants_resolve (h : store.resolve r = .error fault) : store.Warrants fault := by
  rintro text rfl
  rcases resolve_error h with ⟨-, hfault⟩ | ⟨hlacks, hfault⟩
  · cases hfault
  · exact ⟨r, Fault.unresolvedReference.inj hfault, hlacks⟩

theorem Breaks.warrants (h : store.Breaks r fault) : store.Warrants fault := by
  cases h with
  | unresolved resolves => exact warrants_resolve resolves
  | unread _ _ reads =>
    rintro text rfl
    rcases Reference.parse_error reads with ⟨document, hfault⟩ | ⟨fragment, hfault⟩ <;> cases hfault

theorem warrants_follow (h : store.follow r = .error fault) : store.Warrants fault := by
  by_cases hcycle : ∃ q, fault = linkCycle q
  · obtain ⟨q, rfl⟩ := hcycle
    exact nofun
  · have hother : ∀ q, fault ≠ linkCycle q := fun q hq => hcycle ⟨q, hq⟩
    obtain ⟨-, last, -, hbreaks⟩ := follow_eq_error_iff.mp ⟨h, hother⟩
    exact hbreaks.warrants

theorem warrants_schemaAt (h : schemaAt store config owner = .error fault) :
    store.Warrants fault :=
  warrants_resolve (Media.schemaAt_eq_error_iff.mp h)

theorem warrants_locate (h : locate store config owner = .error fault) : store.Warrants fault :=
  warrants_follow (Media.locate_eq_error_iff.mp h)

end Store

/-- A reference that fails for want of a target has met one that the store lacks. -/
theorem Session.warrants_resolveReference {session failed : Session} {r : Reference}
    {policy : Option NamingPolicy} {fault : Fault}
    (h : resolveReference r policy session = .error fault failed) :
    session.store.Warrants fault := by
  have hmeets : session.store.Meets r r := Or.inl rfl
  obtain ⟨outcome, ⟨log, htraced, -, hblames⟩, -⟩ :=
    Blaming.resolveWithin session.nestingBound policy r session.current hmeets session [] rfl rfl
      (id : session.Kept → session.Kept)
  obtain ⟨steps, hsteps, -⟩ := resolveReference_traced r policy session
  obtain rfl : resolveReference r policy session = outcome :=
    Traced.withLog_inj (hsteps.symm.trans htraced)
  rintro text rfl
  cases hblames _ failed h with
  | missing _ lacks => exact ⟨_, rfl, lacks⟩

/-! ## Places that are asked for -/

section Places

variable {store : Store} {config : Config} {owner location : Reference} {operation : Operation}
  {address : Address} {task : Task} {entry : ParameterEntry}

theorem Media.has_of_schemaAt (hdistinct : store.Distinct)
    (h : schemaAt store config owner = .ok (some location)) : store.Has location := by
  obtain ⟨node, schema, hnode, hcarries⟩ := schemaAt_eq_some_iff.mp h
  exact ⟨schema, hcarries.resolve hdistinct hnode⟩

theorem Media.has_of_locate (hdistinct : store.Distinct)
    (h : locate store config owner = .ok (some location)) : store.Has location := by
  obtain ⟨place, -, hplace⟩ := locate_eq_some_iff.mp h
  exact has_of_schemaAt hdistinct hplace

/-- An operation is found where it is said to stand. -/
theorem Operation.StandsAt.resolve {document : String} (hdistinct : store.Distinct)
    (h : StandsAt store document address operation) :
    store.resolve operation.place = .ok operation.node := by
  cases h with
  | method paths stands _ found =>
    have hitem := Json.get?_of_mem_of_distinct (hdistinct.resolve paths)
      (List.mem_of_getElem? stands)
    exact Store.resolve_member (Store.resolve_member paths hitem) found

theorem ParameterEntry.mem_of_mem_merge {entries : List ParameterEntry}
    (h : entry ∈ merge entries) : entry ∈ entries := by
  obtain ⟨-, place, -, happlies⟩ := (enumerates_merge entries).exists_address h
  cases happlies with
  | keyless stands => exact List.mem_of_getElem? stands
  | keyed latest => exact (List.mem_filter.mp (List.mem_of_getLast? latest.last)).1

/-- What applies to an operation was read from a list. -/
theorem Operation.exists_reads (h : entry ∈ operation.parameters store) :
    ∃ r, ParameterEntry.Reads store r entry := by
  have hread : ∀ owner node, entry ∈ ParameterEntry.ofOwner store owner node →
      ∃ r, ParameterEntry.Reads store r entry := by
    intro owner node hmem
    obtain ⟨address, hlisted⟩ :=
      (ParameterEntry.enumerates_ofOwner store owner node).exists_address hmem
    cases hlisted with
    | item _ _ reads => exact ⟨_, reads⟩
  exact (List.mem_append.mp (ParameterEntry.mem_of_mem_merge h)).elim (hread _ _) (hread _ _)

/-- A task for a part stands where the schema of the part was found, and otherwise at the operation,
with the fault for which it was not. -/
theorem Task.IsFor.accounted {part : OperationPart} {found : Except Fault (Option Reference)}
    (h : IsFor config operation part found task) (hplace : store.Has operation.place)
    (hfound : ∀ place, found = .ok (some place) → store.Has place)
    (hfault : ∀ fault, found = .error fault → store.Warrants fault) :
    store.Has task.location ∧ ∀ fault, task.naming = .error fault → store.Warrants fault := by
  cases h with
  | located place => exact ⟨hfound place rfl, nofun⟩
  | unlocated fault =>
    refine ⟨hplace, fun other hother => ?_⟩
    cases hother
    exact hfault fault rfl

theorem Operation.Asks.located (hdistinct : store.Distinct) (hplace : store.Has operation.place)
    (h : operation.Asks store config address task) :
    store.Has task.location ∧ ∀ fault, task.naming = .error fault → store.Warrants fault := by
  cases h with
  | @parameter index entry _ applies asked =>
    refine asked.accounted hplace (fun place hfound => ?_) (fun fault hfault => ?_)
    · cases hentry : entry.place with
      | error fault =>
        rw [hentry] at hfound
        cases hfound
      | ok owner =>
        rw [hentry] at hfound
        exact Media.has_of_schemaAt hdistinct hfound
    · cases hentry : entry.place with
      | error other =>
        rw [hentry] at hfault
        cases hfault
        obtain ⟨r, hreads⟩ := exists_reads (List.mem_of_getElem? applies)
        cases hreads with
        | known => cases hentry
        | unknown => cases hentry
        | failed fails =>
          cases hentry
          exact Store.warrants_follow fails
      | ok owner =>
        rw [hentry] at hfault
        exact Store.warrants_schemaAt hfault
  | requestBody _ asked =>
    exact asked.accounted hplace (fun _ => Media.has_of_locate hdistinct)
      (fun _ => Store.warrants_locate)
  | response _ _ asked =>
    exact asked.accounted hplace (fun _ => Media.has_of_locate hdistinct)
      (fun _ => Store.warrants_locate)

/-- The tasks of a document stand at places that the store has. -/
theorem Task.located {document : String} (hdistinct : store.Distinct)
    (h : task ∈ operations store config document) :
    store.Has task.location ∧ ∀ fault, task.naming = .error fault → store.Warrants fault := by
  obtain ⟨address, hasked⟩ := (enumerates_operations store config document).exists_address h
  cases hasked with
  | part stands asks => exact asks.located hdistinct ⟨_, stands.resolve hdistinct⟩

end Places

namespace Session

/-! ## Reports -/

theorem store_after (r : Reference) (policy : Option NamingPolicy) (session : Session) :
    ((resolveReference r policy).after session).store = session.store := by
  have hgrows : session.Grows ((resolveReference r policy).after session) :=
    resolveWithin_obeys session.nestingBound policy r session
  rw [hgrows.same]

/-- A failure in a report is that of a task: its schema was not found, or its reference fails in a
session with the same documents. -/
theorem Reported.exists_task {store : Store} {session final : Session} {tasks : List Task}
    {report : Report} (h : Reported session tasks report final) (hstore : session.store = store)
    {failure : Failure} (hmem : failure ∈ report.failures) :
    ∃ task ∈ tasks, failure.location = task.location ∧
      (task.naming = .error failure.fault ∨ ∃ policy between failed, between.store = store ∧
        resolveReference task.location policy between = .error failure.fault failed) := by
  induction h with
  | nil => cases hmem
  | artifact _ resolves _ ih =>
    have hbetween := Run.after_of_ok resolves ▸ store_after _ _ _
    obtain ⟨task, htask, hcause⟩ := ih (hbetween.trans hstore) hmem
    exact ⟨task, List.mem_cons_of_mem _ htask, hcause⟩
  | failure _ fails _ ih =>
    rcases List.mem_cons.mp hmem with rfl | hmem
    · exact ⟨_, List.mem_cons_self, rfl, Or.inr ⟨_, _, _, hstore, fails⟩⟩
    · have hbetween := Run.after_of_error fails ▸ store_after _ _ _
      obtain ⟨task, htask, hcause⟩ := ih (hbetween.trans hstore) hmem
      exact ⟨task, List.mem_cons_of_mem _ htask, hcause⟩
  | unlocated naming _ ih =>
    rcases List.mem_cons.mp hmem with rfl | hmem
    · exact ⟨_, List.mem_cons_self, rfl, Or.inl naming⟩
    · obtain ⟨task, htask, hcause⟩ := ih hstore hmem
      exact ⟨task, List.mem_cons_of_mem _ htask, hcause⟩

/-- In every session whose documents have different names in their objects: if a schema is located
for a place, or for what links lead to from it, the store has it where it was located.  Where there
is a content, it is the one of the first configured media type that has one in it or, if none of
these has, of the first entry that has one; otherwise it is the schema directly below.  Nothing is
located only where there is no such schema, or no place that links could lead to.  So the store has
every place that the operations ask for, and none of their requests fails because its own place is
not there. -/
theorem located_schemas_are_there (session : Session) (hdistinct : session.store.Distinct) :
    let store := session.store
    let config := session.config
    let carries := CarriesAt config.preferredMediaTypes
    (∀ owner location, schemaAt store config owner = .ok (some location) ↔
      ∃ node schema, store.resolve owner = .ok node ∧ carries owner node location schema ∧
        store.resolve location = .ok schema) ∧
    (∀ owner, schemaAt store config owner = .ok none ↔
      ∃ node, store.resolve owner = .ok node ∧ Bare node) ∧
    (∀ owner location, locate store config owner = .ok (some location) ↔
      ∃ place node schema, store.follow owner = .ok (some place) ∧
        store.resolve place = .ok node ∧ carries place node location schema ∧
          store.resolve location = .ok schema) ∧
    (∀ owner, locate store config owner = .ok none ↔ store.Lacks owner ∨
      ∃ place node, store.follow owner = .ok (some place) ∧ store.resolve place = .ok node ∧
        Bare node) ∧
    (∀ task ∈ session.operationTasks, store.Has task.location) ∧
    ∀ failure ∈ session.generateOperations.1.failures,
      failure.fault ≠ .unresolvedReference failure.location.canonical := by
  intro store config carries
  have hschemaAt : ∀ owner location, schemaAt store config owner = .ok (some location) ↔
      ∃ node schema, store.resolve owner = .ok node ∧ carries owner node location schema ∧
        store.resolve location = .ok schema := by
    intro owner location
    rw [Media.schemaAt_eq_some_iff]
    constructor
    · rintro ⟨node, schema, hnode, hcarries⟩
      exact ⟨node, schema, hnode, hcarries, hcarries.resolve hdistinct hnode⟩
    · rintro ⟨node, schema, hnode, hcarries, -⟩
      exact ⟨node, schema, hnode, hcarries⟩
  refine ⟨hschemaAt, fun owner => Media.schemaAt_eq_none_iff, fun owner location => ?_,
    fun owner => ?_, fun task htask => (Task.located hdistinct htask).1, fun failure hmem => ?_⟩
  · simp only [Media.locate_eq_some_iff, hschemaAt, exists_and_left]
  · simp only [Media.locate_eq_none_iff, Media.schemaAt_eq_none_iff, Store.follow_eq_none_iff,
      exists_and_left]
  · obtain ⟨task, htask, hlocation, hcause⟩ :=
      (reported_generate session.operationTasks session).exists_task rfl hmem
    obtain ⟨hhas, hwarrants⟩ := Task.located hdistinct htask
    rw [hlocation]
    refine Store.Warrants.ne_unresolved ?_ hhas
    rcases hcause with hunfound | ⟨policy, between, failed, hstore, hfails⟩
    · exact hwarrants _ hunfound
    · exact hstore ▸ warrants_resolveReference hfails

/-- A body that is a link into another document, where the configured media type comes last; the
schema there is a link that leads nowhere. -/
def broken : Session :=
  let link (target : String) : Json := .object [("$ref", .string target)]
  let operation := Json.object [("requestBody", link "parts.json#/body")]
  let content := Json.object [("text/plain", .null),
    ("image/png", .object [("schema", .bool true)]),
    ("application/json", .object [("schema", link "api.json#/none")])]
  ⟨"api.json", ⟨[("api.json", .object [("paths", .object [("/pets", .object
      [("post", operation)])])]),
    ("parts.json", .object [("body", .object [("content", content)])])]⟩, .standard, "api.json",
    Registry.empty⟩

/-- Its schema is located there, and the request fails for want of what the schema links to. -/
theorem located_schemas_are_there_broken :
    broken.store.Distinct ∧
    let location : Reference := ⟨"parts.json", ["body", "content", "application/json", "schema"]⟩
    locate broken.store broken.config ⟨"api.json", ["paths", "/pets", "post", "requestBody"]⟩ =
      .ok (some location) ∧
    (∃ schema, broken.store.resolve location = .ok schema) ∧
    ∃ failure ∈ broken.generateOperations.1.failures, failure.location = location ∧
      failure.fault = .unresolvedReference "api.json#/none" ∧
      failure.fault ≠ .unresolvedReference location.canonical := by
  have hdistinct : broken.store.Distinct := by unfold Store.Distinct; decide
  refine ⟨hdistinct, ?_⟩
  intro location
  obtain ⟨-, -, hlocates, -, -, hfailures⟩ := located_schemas_are_there broken hdistinct
  have hlocated : locate broken.store broken.config
      ⟨"api.json", ["paths", "/pets", "post", "requestBody"]⟩ = .ok (some location) := by
    decide +kernel
  have hfails : broken.generateOperations.1.failures.map (fun f => (f.location, f.fault)) =
      [(location, .unresolvedReference "api.json#/none")] := by
    decide +kernel
  obtain ⟨⟨place, fault⟩, hfailure, hpair⟩ :=
    List.mem_map.mp (hfails ▸ List.mem_singleton_self _)
  simp only [Prod.mk.injEq] at hpair
  obtain ⟨rfl, rfl⟩ := hpair
  obtain ⟨-, -, schema, -, -, -, hschema⟩ := (hlocates _ _).mp hlocated
  exact ⟨hlocated, ⟨schema, hschema⟩, _, hfailure, rfl, rfl, hfailures _ hfailure⟩

end Session

end SchemaTypes
