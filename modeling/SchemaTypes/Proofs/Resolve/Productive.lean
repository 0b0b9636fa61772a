import SchemaTypes.Proofs.Resolve.Order

set_option autoImplicit false

/-!
# Productive declarations

A declaration is productive if it comes to a concrete type when unions, intersections and
identifiers are followed.  One that is not recursive contains a record, so it always is.  A
recursive one is refused if its body says nothing but its own identifier and `null`; but only the
outermost union or intersection is looked at, and no other declaration is.  What is left
unproductive is a recursive declaration that leads on: to a union or intersection further inside, or
to another recursive declaration that is not productive either.  There are such declarations: if one
schema says another or itself, and the other one says the first, both are declared when the other is
resolved first.
-/

namespace SchemaTypes

/-! ## Productive types -/

/-- Whether the type says something by itself: it is no identifier, no union or intersection, no
recursive declaration and not `null`. -/
def TypeExpr.isConcrete : TypeExpr → Bool
  | primitive .null => false
  | union _ => false
  | intersection _ => false
  | identifier _ _ => false
  | recursive _ _ => false
  | _ => true

/-- Some concrete type is reached from a type, by going from a recursive declaration to its body,
from a union or intersection to its members and from an identifier to the declaration that it stands
for. -/
inductive Productive (models : OrderedMap String Model) : TypeExpr → Prop
  | concrete {t : TypeExpr} (concrete : t.isConcrete = true) : Productive models t
  | body {name : String} {body : TypeExpr} (productive : Productive models body) :
      Productive models (.recursive name body)
  | union {members : List TypeExpr} {member : TypeExpr} (mem : member ∈ members)
      (productive : Productive models member) : Productive models (.union members)
  | intersection {members : List TypeExpr} {member : TypeExpr} (mem : member ∈ members)
      (productive : Productive models member) : Productive models (.intersection members)
  | declaration {name : String} {importPath : Option String} {entry : String × Model}
      (declared : entry ∈ models) (named : entry.2.modelName = ⟨name, importPath⟩)
      (productive : Productive models entry.2.declaration) :
      Productive models (.identifier name importPath)

section Productive

variable {models : OrderedMap String Model}

mutual

/-- A type that contains a record is productive, whatever is declared. -/
theorem Productive.of_qualifies : ∀ {t : TypeExpr}, t.qualifies = true → Productive models t
  | .array _, _ => .concrete rfl
  | .record _, _ => .concrete rfl
  | .dictionary _, _ => .concrete rfl
  | .tuple _, _ => .concrete rfl
  | .union _, h => by
    obtain ⟨member, hmember, hproductive⟩ := Productive.of_anyQualifies h
    exact .union hmember hproductive
  | .intersection _, h => by
    obtain ⟨member, hmember, hproductive⟩ := Productive.of_anyQualifies h
    exact .intersection hmember hproductive
  | .recursive _ _, h => .body (Productive.of_qualifies h)

theorem Productive.of_anyQualifies : ∀ {types : List TypeExpr},
    TypeExpr.anyQualifies types = true → ∃ t ∈ types, Productive models t
  | t :: rest, h => by
    rw [TypeExpr.anyQualifies, Bool.or_eq_true] at h
    rcases h with hfirst | hrest
    · exact ⟨t, List.mem_cons_self, Productive.of_qualifies hfirst⟩
    · obtain ⟨other, hother, hproductive⟩ := Productive.of_anyQualifies hrest
      exact ⟨other, List.mem_cons_of_mem t hother, hproductive⟩

end

end Productive

/-! ## Types that are not productive -/

namespace TypeExpr

mutual

/-- Whether the type leads to nothing but some names and `null`. -/
def leadsOnly (names : List ModelName) : TypeExpr → Bool
  | union members => leadOnly names members
  | intersection members => leadOnly names members
  | recursive _ body => leadsOnly names body
  | identifier name importPath => names.contains ⟨name, importPath⟩
  | primitive .null => true
  | _ => false

/-- Whether the types of a list lead to nothing but some names and `null`. -/
def leadOnly (names : List ModelName) : List TypeExpr → Bool
  | [] => true
  | t :: rest => leadsOnly names t && leadOnly names rest

end

theorem leadsOnly_of_mem {names : List ModelName} {types : List TypeExpr}
    (h : leadOnly names types = true) {t : TypeExpr} (ht : t ∈ types) :
    t.leadsOnly names = true := by
  induction types with
  | nil => cases ht
  | cons first rest ih =>
    rw [leadOnly, Bool.and_eq_true] at h
    rcases List.mem_cons.mp ht with rfl | hrest
    · exact h.1
    · exact ih h.2 hrest

end TypeExpr

/-- Names whose declarations lead to nothing but these names have no productive declarations. -/
theorem not_productive_of_leadsOnly {models : OrderedMap String Model} {names : List ModelName}
    (hnames : ∀ entry ∈ models, entry.2.modelName ∈ names →
      entry.2.declaration.leadsOnly names = true)
    {t : TypeExpr} (h : t.leadsOnly names = true) : ¬ Productive models t := by
  intro hproductive
  induction hproductive with
  | @concrete t concrete =>
    cases t with
    | primitive kind => cases kind <;> simp [TypeExpr.isConcrete, TypeExpr.leadsOnly] at concrete h
    | _ => simp [TypeExpr.isConcrete, TypeExpr.leadsOnly] at concrete h
  | body _ ih =>
    rw [TypeExpr.leadsOnly] at h
    exact ih h
  | union mem _ ih =>
    rw [TypeExpr.leadsOnly] at h
    exact ih (TypeExpr.leadsOnly_of_mem h mem)
  | intersection mem _ ih =>
    rw [TypeExpr.leadsOnly] at h
    exact ih (TypeExpr.leadsOnly_of_mem h mem)
  | declaration declared named _ ih =>
    rw [TypeExpr.leadsOnly, List.contains_iff_mem] at h
    rw [← named] at h
    exact ih (hnames _ declared h)

/-! ## Alternatives -/

namespace TypeExpr

/-- The members of a union or intersection; any other type is its own only alternative. -/
def alternatives : TypeExpr → List TypeExpr
  | union members => members
  | intersection members => members
  | t => [t]

variable {t alternative : TypeExpr}

theorem mem_occurrences_of_mem_alternatives (h : alternative ∈ t.alternatives) :
    alternative ∈ t.occurrences := by
  cases t with
  | union members =>
    exact List.mem_cons_of_mem _
      (mem_listOccurrences.mpr ⟨alternative, h, mem_occurrences_self alternative⟩)
  | intersection members =>
    exact List.mem_cons_of_mem _
      (mem_listOccurrences.mpr ⟨alternative, h, mem_occurrences_self alternative⟩)
  | _ =>
    rw [List.mem_singleton.mp h]
    exact mem_occurrences_self _

theorem mem_identifiers_of_mem_alternatives (h : alternative ∈ t.alternatives) {n : ModelName}
    (hn : n ∈ alternative.identifiers) : n ∈ t.identifiers := by
  cases t with
  | union members => exact mem_listIdentifiers.mpr ⟨alternative, h, hn⟩
  | intersection members => exact mem_listIdentifiers.mpr ⟨alternative, h, hn⟩
  | _ =>
    rw [List.mem_singleton.mp h] at hn
    exact hn

/-- A body that is not refused, and that is not `null`, has an alternative that is neither the
identifier being defined nor `null`. -/
theorem exists_alternative {own body : TypeExpr}
    (h : Session.isUnproductive own body = false) (hnull : body.same null = false) :
    ∃ alternative ∈ body.alternatives,
      alternative.same own = false ∧ alternative.same null = false := by
  have hmembers : ∀ members : List TypeExpr,
      (members.all fun m => m.same own || m.same null) = false →
      ∃ m ∈ members, m.same own = false ∧ m.same null = false := by
    intro members hall
    obtain ⟨m, hm, hneither⟩ := List.all_eq_false.mp hall
    rw [Bool.not_eq_true, Bool.or_eq_false_iff] at hneither
    exact ⟨m, hm, hneither⟩
  unfold Session.isUnproductive at h
  split at h
  · exact hmembers _ h
  · exact hmembers _ h
  · rename_i hunion hintersection
    refine ⟨body, ?_, h, hnull⟩
    cases body with
    | union members => exact absurd rfl (hunion members)
    | intersection members => exact absurd rfl (hintersection members)
    | _ => exact List.mem_singleton_self _

end TypeExpr

theorem Productive.of_alternative {models : OrderedMap String Model} {t alternative : TypeExpr}
    (hmem : alternative ∈ t.alternatives) (h : Productive models alternative) :
    Productive models t := by
  cases t with
  | union members => exact .union hmem h
  | intersection members => exact .intersection hmem h
  | _ =>
    rw [List.mem_singleton.mp hmem] at h
    exact h

/-! ## What is checked of declarations -/

/-- Every declaration contains a record, or it is recursive, no declaration is inside it, and its
body was not refused. -/
def Checked (models : OrderedMap String Model) : Prop :=
  ∀ entry ∈ models, entry.2.declaration.qualifies = true ∨
    ∃ body, entry.2.declaration = .recursive entry.2.name body ∧ body.Unfolded ∧
      Session.isUnproductive entry.2.identifier body = false

/-- A declaration that is not productive is recursive. -/
theorem Checked.exists_body {models : OrderedMap String Model} (h : Checked models)
    {entry : String × Model} (hentry : entry ∈ models)
    (hnot : ¬ Productive models entry.2.declaration) :
    ∃ body, entry.2.declaration = .recursive entry.2.name body ∧ body.Unfolded ∧
      Session.isUnproductive entry.2.identifier body = false :=
  (h entry hentry).resolve_left fun hqualifies => hnot (.of_qualifies hqualifies)

/-- A closed reference is checked. -/
theorem Registry.Closes.checked {before after : Registry} {r : Reference} {type answer : TypeExpr}
    (hcloses : before.Closes r type answer after) (hunfolded : type.Unfolded)
    (h : Checked before.models) : Checked after.models := by
  intro entry hentry
  cases hcloses with
  | recursive _ productive =>
    rcases List.mem_append.mp hentry with hold | hnew
    · exact h entry hold
    · obtain rfl := List.mem_singleton.mp hnew
      exact Or.inr ⟨type, rfl, hunfolded, productive⟩
  | declared _ qualifies =>
    rcases List.mem_append.mp hentry with hold | hnew
    · exact h entry hold
    · obtain rfl := List.mem_singleton.mp hnew
      exact Or.inl qualifies
  | inlined => exact h entry hentry

namespace Session

/-- All declarations are checked, besides what is known of their order. -/
structure Sound (session : Session) : Prop where
  kept : session.Kept
  checked : Checked session.registry.models

section Resolving

variable {resolve : Reference → Run TypeExpr} {session final : Session} {r : Reference}
  {answer : TypeExpr}

/-- Elaborations keep declarations checked. -/
theorem carries_sound (hnested : Nested resolve)
    (hsound : ∀ r session answer final, resolve r session = .ok answer final →
      session.Sound → final.Sound) :
    Carries resolve Sound fun _ type => type.Unfolded :=
  hnested.carries_of_coherent (fun h => h.kept.coherent)
    (fun path name h => ⟨h.kept.recordHelper path name, h.checked⟩) hsound

/-- A resolution keeps declarations checked if the resolutions in its target do. -/
theorem Resolves.sound (hnested : Nested resolve)
    (hsound : ∀ r session answer final, resolve r session = .ok answer final →
      session.Sound → final.Sound)
    (h : Resolves resolve r session answer final) (hsession : session.Sound) : final.Sound := by
  refine ⟨h.kept hnested hnested.kept hsession.kept, ?_⟩
  cases h with
  | answered => exact hsession.checked
  | named => exact hsession.checked
  | @read policy node type answer read after new found elaborated grows closes =>
    obtain ⟨hread, hunfolded⟩ := (carries_sound hnested hsound).elaborate
      (Schema.ofJson_plain r node) elaborated
      ⟨hsession.kept.begin new r.document policy, hsession.checked⟩
    exact closes.checked hunfolded hread.checked

theorem resolveWithin_sound {bound : Nat} {policy : Option NamingPolicy}
    (h : resolveWithin bound policy r session = .ok answer final) (hsession : session.Sound) :
    final.Sound :=
  resolveWithin_induct (P := fun _ session _ final => session.Sound → final.Sound)
    (fun _ hnested hsound _ _ _ _ h => h.sound hnested hsound) bound policy h hsession

end Resolving

/-! ## Runs -/

/-- However requests come out, declarations stay checked. -/
theorem obeys_sound : Request.Obeys fun before after =>
    before.Quiet ∧ before.Sound → after.Quiet ∧ after.Sound :=
  obeys_of_kept
    (fun hquiet hrestores h =>
      ⟨h.kept.restores hquiet hrestores, by rw [hrestores.registry.models]; exact h.checked⟩)
    resolveWithin_sound fun _ document h => ⟨h.kept.moved document, h.checked⟩

namespace Sound

variable {session : Session} {entry : String × Model} {body : TypeExpr}

/-- The body of a recursive declaration is not `null`, since it is met again from itself. -/
theorem body_ne_null (h : session.Sound) (hentry : entry ∈ session.registry.models)
    (hbody : entry.2.declaration = .recursive entry.2.name body) : body.same .null = false := by
  rw [Bool.eq_false_iff]
  intro hsame
  have hnone : body.identifiers = [] := TypeExpr.identifiers_eq_of_same body .null hsame
  cases h.kept.orderly.looped entry hentry _ body hbody with
  | mention mentioned =>
    rw [hnone] at mentioned
    cases mentioned
  | follow _ mentioned _ =>
    rw [hnone] at mentioned
    cases mentioned

/-- Where nothing is open, a name that a declaration mentions is that of a declaration. -/
theorem exists_mentioned (h : session.Sound) (hquiet : session.Quiet)
    (hentry : entry ∈ session.registry.models) {name : ModelName}
    (hname : name ∈ entry.2.declaration.identifiers) :
    ∃ other ∈ session.registry.models, other.2.modelName = name := by
  obtain ⟨⟨taken, key⟩, htaken, rfl⟩ :=
    List.mem_map.mp (h.kept.tidy.closed.declared entry hentry name hname)
  obtain ⟨model, hmodel, hnamed⟩ := h.kept.tidy.named.declared_of_mem hquiet htaken
  exact ⟨(key, model), OrderedMap.mem_of_get? hmodel, hnamed⟩

/-- Where nothing is open, an alternative of a recursive declaration that is neither productive nor
its own identifier or `null` leads on. -/
theorem alternative_leads_on (h : session.Sound) (hquiet : session.Quiet)
    (hentry : entry ∈ session.registry.models)
    (hbody : entry.2.declaration = .recursive entry.2.name body) (hunfolded : body.Unfolded)
    {alternative : TypeExpr} (halternative : alternative ∈ body.alternatives)
    (hown : alternative.same entry.2.identifier = false)
    (hnull : alternative.same .null = false)
    (hnot : ¬ Productive session.registry.models alternative) :
    (∃ members, alternative = .union members ∨ alternative = .intersection members) ∨
      ∃ other ∈ session.registry.models, other.2.modelName ≠ entry.2.modelName ∧
        alternative = other.2.identifier ∧ other.2.declaration.isRecursive = true ∧
          ¬ Productive session.registry.models other.2.declaration := by
  cases alternative with
  | union members => exact Or.inl ⟨members, Or.inl rfl⟩
  | intersection members => exact Or.inl ⟨members, Or.inr rfl⟩
  | recursive name inner =>
    exact absurd (TypeExpr.mem_occurrences_of_mem_alternatives halternative) (hunfolded name inner)
  | identifier name importPath =>
    have hmentions : ⟨name, importPath⟩ ∈ entry.2.declaration.identifiers := by
      rw [hbody]
      exact TypeExpr.mem_identifiers_of_mem_alternatives halternative (List.mem_singleton_self _)
    obtain ⟨other, hother, hnamed⟩ := h.exists_mentioned hquiet hentry hmentions
    have hbarren : ¬ Productive session.registry.models other.2.declaration :=
      fun hproductive => hnot (.declaration hother hnamed hproductive)
    obtain ⟨inner, hinner, -⟩ := h.checked.exists_body hother hbarren
    have hidentifier : other.2.identifier = .identifier name importPath := by
      rw [Model.identifier, hnamed]
      rfl
    refine Or.inr ⟨other, hother, fun hsame => ?_, hidentifier.symm, ?_, hbarren⟩
    · rw [Model.identifier, ← hsame, ← Model.identifier, hidentifier] at hown
      simp [TypeExpr.same] at hown
    · exact TypeExpr.isRecursive_iff.mpr ⟨_, inner, hinner⟩
  | primitive kind =>
    cases kind with
    | null => cases hnull
    | _ => exact absurd (.concrete rfl) hnot
  | _ => exact absurd (.concrete rfl) hnot

/-- Where nothing is open, an unproductive declaration leads on. -/
theorem productive_or_leads_on (h : session.Sound) (hquiet : session.Quiet)
    (hentry : entry ∈ session.registry.models) :
    let models := session.registry.models
    Productive models entry.2.declaration ∨
      ∃ body, entry.2.declaration = .recursive entry.2.name body ∧
        ∃ alternative ∈ body.alternatives, ¬ Productive models alternative ∧
          ((∃ members, alternative = .union members ∨ alternative = .intersection members) ∨
            ∃ other ∈ models, other.2.modelName ≠ entry.2.modelName ∧
              alternative = other.2.identifier ∧ other.2.declaration.isRecursive = true ∧
                ¬ Productive models other.2.declaration) := by
  intro models
  by_cases hproductive : Productive models entry.2.declaration
  · exact Or.inl hproductive
  obtain ⟨body, hbody, hunfolded, hchecked⟩ := h.checked.exists_body hentry hproductive
  obtain ⟨alternative, halternative, hown, hnull⟩ :=
    TypeExpr.exists_alternative hchecked (h.body_ne_null hentry hbody)
  have hnot : ¬ Productive models alternative := by
    intro halone
    rw [hbody] at hproductive
    exact hproductive (.body (halone.of_alternative halternative))
  exact Or.inr ⟨body, hbody, alternative, halternative, hnot,
    h.alternative_leads_on hquiet hentry hbody hunfolded halternative hown hnull hnot⟩

end Sound

/-- Whatever was requested of a session that started fresh: every declaration is productive, or it
is recursive and one of its alternatives, neither its own identifier nor `null`, leads on without
being productive.  That is a union or intersection inside the outermost one, or the identifier of
another declaration, which is recursive and not productive either. -/
theorem declarations_are_productive_or_lead_on {store : Store} {root : String} {config : Config}
    {start : Session} (hstart : Session.start store root config = .ok start)
    (requests : List Request) :
    let models := (Request.performAll requests start).2.registry.models
    ∀ entry ∈ models, Productive models entry.2.declaration ∨
      ∃ body, entry.2.declaration = .recursive entry.2.name body ∧
        ∃ alternative ∈ body.alternatives, ¬ Productive models alternative ∧
          ((∃ members, alternative = .union members ∨ alternative = .intersection members) ∨
            ∃ other ∈ models, other.2.modelName ≠ entry.2.modelName ∧
              alternative = other.2.identifier ∧ other.2.declaration.isRecursive = true ∧
                ¬ Productive models other.2.declaration) := by
  intro models entry hentry
  have hempty := registry_of_start hstart
  have hchecked : Checked start.registry.models := by
    rw [hempty]
    exact fun _ h => absurd h List.not_mem_nil
  obtain ⟨hquiet, hsound⟩ := obeys_sound.performAll requests start
    ⟨.of_empty hempty, .of_empty hempty, hchecked⟩
  exact hsound.productive_or_leads_on hquiet hentry

/-! ## Two references that name each other -/

/-- A schema that says `Y` or itself, and one that says `X`. -/
def crossStore : Store :=
  ⟨[("api.json", .object [("components", .object [("schemas", .object
    [("X", .object [("oneOf", .array [sampleLink "Y", sampleLink "X"])]),
      ("Y", .object [("oneOf", .array [sampleLink "X"])])])])])]⟩

/-- A fresh session at these two schemas. -/
def cross : Session := ⟨"api.json", crossStore, .standard, "api.json", Registry.empty⟩

theorem start_cross : start crossStore "api.json" .standard = .ok cross :=
  start_of_canonical (by decide +kernel) rfl

/-- If `Y` is resolved first, both are declared. -/
theorem exists_unproductive_cross :
    let models := (Request.performAll [.resolve (sampleReference "Y") none] cross).2.registry.models
    ∃ entry ∈ models, ¬ Productive models entry.2.declaration := by
  intro models
  have hnames : ∀ entry ∈ models, entry.2.modelName ∈ [⟨"X", none⟩, ⟨"Y", none⟩] →
      entry.2.declaration.leadsOnly [⟨"X", none⟩, ⟨"Y", none⟩] = true := by
    decide +kernel
  have hdeclared : ∃ entry ∈ models,
      entry.2.declaration.leadsOnly [⟨"X", none⟩, ⟨"Y", none⟩] = true := by
    decide +kernel
  obtain ⟨entry, hentry, hleads⟩ := hdeclared
  exact ⟨entry, hentry, not_productive_of_leadsOnly hnames hleads⟩

/-- The declarations of a session need not be productive. -/
theorem declarations_need_not_be_productive :
    ¬ ∀ (store : Store) (root : String) (config : Config) (start : Session),
      Session.start store root config = .ok start → ∀ requests : List Request,
        ∀ entry ∈ (Request.performAll requests start).2.registry.models,
          Productive (Request.performAll requests start).2.registry.models
            entry.2.declaration := by
  intro h
  obtain ⟨entry, hentry, hnot⟩ := exists_unproductive_cross
  exact hnot (h _ _ _ _ start_cross _ entry hentry)

/-- Each of the two leads on to the other. -/
theorem declarations_are_productive_or_lead_on_cross :
    let models := (Request.performAll [.resolve (sampleReference "Y") none] cross).2.registry.models
    ∃ entry ∈ models, ∃ body, entry.2.declaration = .recursive entry.2.name body ∧
      ∃ alternative ∈ body.alternatives, ¬ Productive models alternative := by
  intro models
  obtain ⟨entry, hentry, hnot⟩ := exists_unproductive_cross
  rcases declarations_are_productive_or_lead_on start_cross _ entry hentry with
    hproductive | ⟨body, hbody, alternative, halternative, hbarren, -⟩
  · exact absurd hproductive hnot
  · exact ⟨entry, hentry, body, hbody, alternative, halternative, hbarren⟩

end Session

end SchemaTypes
