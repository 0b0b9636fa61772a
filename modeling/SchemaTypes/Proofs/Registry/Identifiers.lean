import SchemaTypes.Proofs.Registry.Names
import SchemaTypes.Proofs.TypeExpr.Identifiers

set_option autoImplicit false

/-!
# Identifiers in a registry

An identifier is handed out as soon as its name is taken, which may be long before the declaration
is there, and it is copied into other declarations and inlined types.  In a tidy registry it is
always a taken name.
-/

namespace SchemaTypes

namespace Registry

/-! ## Closed registries -/

/-- Every identifier in the type is a taken name. -/
def Knows (registry : Registry) (type : TypeExpr) : Prop :=
  ∀ n ∈ type.identifiers, n ∈ registry.names.keys

theorem Knows.mono {before after : Registry} {type : TypeExpr} (h : before.Knows type)
    (hnames : before.names <+: after.names) : after.Knows type := by
  intro n hn
  obtain ⟨added, hadded⟩ := hnames
  rw [← hadded, OrderedMap.keys_append]
  exact List.mem_append_left _ (h n hn)

/-- Every identifier that the registry holds is a taken name. -/
structure Closed (registry : Registry) : Prop where
  declared : ∀ entry ∈ registry.models, registry.Knows entry.2.declaration
  inlined : ∀ entry ∈ registry.inlined, registry.Knows entry.2

/-- Names given to what is declared and names given to what is open are all that identifiers
mention. -/
structure Tidy (registry : Registry) : Prop where
  named : registry.Named
  closed : registry.Closed

namespace Tidy

variable {registry : Registry} {r : Reference} {policy : NamingPolicy}

theorem of_empty : Registry.empty.Tidy :=
  ⟨.of_empty, fun _ hentry => absurd hentry List.not_mem_nil,
    fun _ hentry => absurd hentry List.not_mem_nil⟩

/-- Where nothing is declared or inlined in between, names only have to stay taken. -/
theorem mono (h : registry.Tidy) {after : Registry} (hnamed : after.Named)
    (hmodels : after.models = registry.models) (hinlined : after.inlined = registry.inlined)
    (hnames : registry.names <+: after.names) : after.Tidy := by
  refine ⟨hnamed, fun entry hentry => ?_, fun entry hentry => ?_⟩
  · rw [hmodels] at hentry
    exact (h.closed.declared entry hentry).mono hnames
  · rw [hinlined] at hentry
    exact (h.closed.inlined entry hentry).mono hnames

/-- Opening a new reference. -/
theorem begin (h : registry.Tidy) {key : String} (hnew : registry.New key)
    (policy : NamingPolicy) : (registry.begin key policy).Tidy :=
  h.mono (h.named.begin hnew policy) rfl rfl List.prefix_rfl

theorem knows_identifier {name : ModelName} (h : name ∈ registry.names.keys) :
    registry.Knows name.identifier := by
  intro n hn
  obtain rfl : n = name := List.mem_singleton.mp hn
  exact h

/-- Answers mention taken names only. -/
theorem knows_answer (h : registry.Tidy) {key : String} {type : TypeExpr}
    (hanswer : registry.answer? key = some type) : registry.Knows type := by
  rcases h.named.answer_eq hanswer with ⟨name, rfl, hmem⟩ | hinlined
  · exact knows_identifier (List.mem_map_of_mem hmem)
  · exact h.closed.inlined _ (OrderedMap.mem_of_get? hinlined)

/-- A closed reference: its declaration, or its inlined type, mentions what was known before. -/
theorem closes {after : Registry} {type answer : TypeExpr} (h : registry.Tidy)
    (hmodels : registry.models.get? r.canonical = none)
    (hcloses : registry.Closes r type answer after) (hknows : registry.Knows type) :
    after.Tidy := by
  have hnamed := h.named.closes hmodels hcloses
  have hnames := hcloses.names_prefix
  have hafter : after.Knows type := hknows.mono hnames
  have holdModels : ∀ entry ∈ registry.models, after.Knows entry.2.declaration :=
    fun entry hentry => (h.closed.declared entry hentry).mono hnames
  have holdInlined : ∀ entry ∈ registry.inlined, after.Knows entry.2 :=
    fun entry hentry => (h.closed.inlined entry hentry).mono hnames
  cases hcloses with
  | recursive =>
    refine ⟨hnamed, fun entry hentry => ?_, holdInlined⟩
    rcases List.mem_append.mp hentry with hold | hnew
    · exact holdModels entry hold
    · obtain rfl := List.mem_singleton.mp hnew
      intro n hn
      rw [TypeExpr.identifiers] at hn
      exact hafter n hn
  | declared =>
    refine ⟨hnamed, fun entry hentry => ?_, holdInlined⟩
    rcases List.mem_append.mp hentry with hold | hnew
    · exact holdModels entry hold
    · obtain rfl := List.mem_singleton.mp hnew
      exact hafter
  | inlined =>
    refine ⟨hnamed, holdModels, fun entry hentry => ?_⟩
    rcases List.mem_append.mp hentry with hold | hnew
    · exact holdInlined entry hold
    · obtain rfl := List.mem_singleton.mp hnew
      exact hafter

end Tidy

end Registry

end SchemaTypes
