import SchemaTypes.Proofs.Session.Names
import SchemaTypes.Proofs.Session.Rising
import SchemaTypes.Proofs.TypeExpr.Written

set_option autoImplicit false

/-!
# Written dumps

What is written of a dump determines it: a declaration is told by its four members, of which the
reference is written in its canonical form, and a dump by its declarations, in their order, and its
helpers.  Members that are given in another order say the same, but for those whose order counts.
-/

namespace SchemaTypes

/-! ## Declarations -/

namespace Model

/-- Declarations that differ in nothing but, at most, the sign of a zero. -/
structure Same (first second : Model) : Prop where
  reference : first.reference = second.reference
  name : first.name = second.name
  declaration : first.declaration.same second.declaration = true
  importPath : first.importPath = second.importPath

variable {first second : Model}

/-- A declaration is determined by what is written of it. -/
theorem toJson_injective (h : first.toJson = second.toJson) : first = second := by
  obtain ⟨reference, name, declaration, importPath⟩ := first
  obtain ⟨reference', name', declaration', importPath'⟩ := second
  simp only [toJson, Json.object.injEq, List.cons.injEq, Prod.mk.injEq, Json.string.injEq,
    true_and, and_true] at h
  obtain ⟨hreference, rfl, hdeclaration, hpath⟩ := h
  rw [Reference.eq_of_canonical_eq hreference, TypeExpr.toJson_injective hdeclaration,
    Json.ofOption_injective hpath]

/-- What is written of declarations is equal exactly if they are. -/
theorem same_toJson_iff : first.toJson.same second.toJson = true ↔ first.Same second := by
  have hwritten : first.toJson.same second.toJson =
      (first.reference.canonical == second.reference.canonical && (first.name == second.name &&
        (first.declaration.same second.declaration &&
          first.importPath == second.importPath))) := by
    rw [← TypeExpr.same_toJson, ← Json.same_ofOption]
    simp [toJson, Json.same, Json.foundIn, OrderedMap.get?_cons]
  rw [hwritten]
  simp only [Bool.and_eq_true, beq_iff_eq]
  constructor
  · rintro ⟨hreference, hname, hdeclaration, hpath⟩
    exact ⟨Reference.eq_of_canonical_eq hreference, hname, hdeclaration, hpath⟩
  · rintro ⟨hreference, hname, hdeclaration, hpath⟩
    exact ⟨hreference ▸ rfl, hname, hdeclaration, hpath⟩

end Model

/-! ## Dumps -/

namespace Dump

/-- Dumps that differ in nothing but, at most, the signs of zeros. -/
structure Same (first second : Dump) : Prop where
  models : List.Forall₂ (fun a b => a.1 = b.1 ∧ a.2.Same b.2) first.models second.models
  helpers : first.helpers = second.helpers

/-- Every declaration has a key of its own, and the paths of helpers rise. -/
structure Ordered (dump : Dump) : Prop where
  models : dump.models.keys.Nodup
  helpers : (dump.helpers.map Prod.fst).Pairwise (· < ·)

variable {first second : Dump}

theorem helperToJson_injective {a b : String × List String}
    (h : helperToJson a = helperToJson b) : a = b := by
  obtain ⟨path, names⟩ := a
  obtain ⟨path', names'⟩ := b
  obtain ⟨rfl, hnames⟩ : path = path' ∧ _ := Prod.mk.inj h
  have hsame : names = names' :=
    List.map_injective_iff.mpr (fun _ _ => Json.string.inj) (Json.array.inj hnames)
  rw [hsame]

/-- A dump is determined by what is written of it. -/
theorem toJson_injective (h : first.toJson = second.toJson) : first = second := by
  obtain ⟨models, helpers⟩ := first
  obtain ⟨models', helpers'⟩ := second
  obtain ⟨hmodels, hhelpers⟩ := Json.eq_and_eq_of_pair_eq h
  have hentry : Function.Injective fun entry : String × Model => (entry.1, entry.2.toJson) := by
    rintro ⟨key, model⟩ ⟨key', model'⟩ hentries
    obtain ⟨hkey, hmodel⟩ := Prod.mk.inj hentries
    exact Prod.ext hkey (Model.toJson_injective hmodel)
  obtain rfl : models = models' := List.map_injective_iff.mpr hentry (Json.object.inj hmodels)
  obtain rfl : helpers = helpers' :=
    List.map_injective_iff.mpr (fun _ _ => helperToJson_injective) (Json.object.inj hhelpers)
  rfl

theorem memberNames_models (dump : Dump) :
    dump.toJson.memberNames "models" = dump.models.keys := by
  change (dump.models.map fun entry => (entry.1, entry.2.toJson)).map Prod.fst = _
  rw [List.map_map]
  rfl

/-- What is written of declarations under the same keys in the same order is equal exactly if they
are, one by one. -/
theorem same_models_iff {models others : OrderedMap String Model} (hnodup : models.keys.Nodup)
    (hkeys : models.keys = others.keys) :
    (Json.object (models.map fun entry => (entry.1, entry.2.toJson))).same
        (.object (others.map fun entry => (entry.1, entry.2.toJson))) = true ↔
      List.Forall₂ (fun a b => a.1 = b.1 ∧ a.2.Same b.2) models others := by
  have hnames (map : OrderedMap String Model) :
      (map.map fun entry => (entry.1, entry.2.toJson)).map Prod.fst = map.keys := by
    rw [List.map_map]
    rfl
  rw [Json.same_iff_forall₂, List.forall₂_map_left_iff, List.forall₂_map_right_iff]
  · simp only [Model.same_toJson_iff]
  · rw [hnames, hnames, hkeys]
  · rw [hnames]
    exact hnodup

/-- What is written of helpers whose paths rise is equal only if they are the same. -/
theorem same_helpers_iff {helpers others : List (String × List String)}
    (hrise : (helpers.map Prod.fst).Pairwise (· < ·))
    (hothers : (others.map Prod.fst).Pairwise (· < ·)) :
    (Json.object (helpers.map helperToJson)).same (.object (others.map helperToJson)) = true ↔
      helpers = others := by
  have hnames (list : List (String × List String)) :
      (list.map helperToJson).map Prod.fst = list.map Prod.fst := by
    rw [List.map_map]
    rfl
  have hnodup : (helpers.map Prod.fst).Nodup := hrise.imp ne_of_lt
  have hplaces (hpaths : helpers.map Prod.fst = others.map Prod.fst) :
      (Json.object (helpers.map helperToJson)).same (.object (others.map helperToJson)) = true ↔
        helpers = others := by
    rw [Json.same_iff_forall₂ (by rw [hnames, hnames, hpaths]) (by rw [hnames]; exact hnodup),
      List.forall₂_map_left_iff, List.forall₂_map_right_iff]
    simp only [helperToJson, Json.same_strings_iff, ← Prod.ext_iff]
    rw [List.forall₂_eq_eq_eq]
  constructor
  · intro h
    have hpaths := Json.names_eq_of_same (by rw [hnames]; exact hrise)
      (by rw [hnames]; exact hothers) h
    rw [hnames, hnames] at hpaths
    exact (hplaces hpaths).mp h
  · intro h
    exact (hplaces (h ▸ rfl)).mpr h

/-- What is written of dumps says the same, of declarations in the same order, exactly if the dumps
are equal. -/
theorem same_toJson_iff (hfirst : first.Ordered) (hsecond : second.Ordered) :
    (first.toJson.same second.toJson = true ∧
      first.toJson.memberNames "models" = second.toJson.memberNames "models") ↔
      first.Same second := by
  have hwritten : first.toJson.same second.toJson = true ↔
      (Json.object (first.models.map fun entry => (entry.1, entry.2.toJson))).same
          (.object (second.models.map fun entry => (entry.1, entry.2.toJson))) = true ∧
        first.helpers = second.helpers := by
    rw [← same_helpers_iff hfirst.helpers hsecond.helpers, ← Bool.and_eq_true]
    unfold toJson
    rw [Json.same_pair (by decide)]
  rw [hwritten, memberNames_models, memberNames_models]
  constructor
  · rintro ⟨⟨hmodels, hhelpers⟩, hkeys⟩
    exact ⟨(same_models_iff hfirst.models hkeys).mp hmodels, hhelpers⟩
  · rintro ⟨hmodels, hhelpers⟩
    have hkeys : first.models.keys = second.models.keys := by
      rw [OrderedMap.keys, OrderedMap.keys, ← List.forall₂_eq_eq_eq, List.forall₂_map_left_iff,
        List.forall₂_map_right_iff]
      exact hmodels.imp fun _ _ hentry => hentry.1
    exact ⟨⟨(same_models_iff hfirst.models hkeys).mpr hmodels, hhelpers⟩, hkeys⟩

end Dump

/-! ## Sessions -/

namespace Session

/-- A dump is what a session hands over after some calls. -/
def HandsOver (dump : Dump) : Prop :=
  ∃ store root config start calls, Session.start store root config = .ok start ∧
    (Call.performAll calls start).registry.dump = dump

/-- What is handed over is in order. -/
theorem HandsOver.ordered {dump : Dump} (h : HandsOver dump) : dump.Ordered := by
  obtain ⟨store, root, config, start, calls, hstart, rfl⟩ := h
  have hempty := registry_of_start hstart
  have hbooked : start.registry.Booked := by
    rw [hempty]
    exact .of_empty
  have hrise : start.registry.HelpersRise := by
    rw [hempty]
    exact .of_empty
  exact {
    models := (calls_booked ⟨.of_empty hempty, hbooked⟩ calls).2.named.models_nodup
    helpers := (Call.helpersRise_performAll calls hrise).paths }

/-- Types and dumps are told apart by what is written of them: if the same is written, they are the
same, and if what is written is equal, in whatever order members stand, they are equal.  Only the
order in which declarations stand has to be known besides. -/
theorem dumps_lose_nothing :
    (∀ type other : TypeExpr, type.toJson = other.toJson → type = other) ∧
    (∀ type other : TypeExpr, type.toJson.same other.toJson = true ↔ type.same other = true) ∧
    (∀ dump other : Dump, dump.toJson = other.toJson → dump = other) ∧
    ∀ dump other : Dump, HandsOver dump → HandsOver other →
      (dump.toJson.same other.toJson = true ∧
        dump.toJson.memberNames "models" = other.toJson.memberNames "models" ↔
      dump.Same other) := by
  refine ⟨fun type other => TypeExpr.toJson_injective, fun type other => ?_,
    fun dump other => Dump.toJson_injective, fun dump other hdump hother => ?_⟩
  · rw [TypeExpr.same_toJson]
  · exact Dump.same_toJson_iff hdump.ordered hother.ordered

/-- The literal null is not written as the null type is.  To generate everything twice in the sample
is to write the same as if it was done once. -/
theorem dumps_lose_nothing_sample :
    let once := (Call.performAll [.request .everything] sample).registry.dump
    let twice := (Call.performAll [.request .everything, .request .everything] sample).registry.dump
    (TypeExpr.literal .null).toJson ≠ TypeExpr.null.toJson ∧
      HandsOver once ∧ HandsOver twice ∧ once.Same twice := by
  intro once twice
  have honce : HandsOver once := ⟨_, _, _, _, _, start_sample, rfl⟩
  have htwice : HandsOver twice := ⟨_, _, _, _, _, start_sample, rfl⟩
  have hsame : once.toJson.same twice.toJson = true := by decide +kernel
  have hkeys : once.toJson.memberNames "models" = twice.toJson.memberNames "models" := by
    decide +kernel
  refine ⟨fun hnull => ?_, honce, htwice,
    (dumps_lose_nothing.2.2.2 once twice honce htwice).mp ⟨hsame, hkeys⟩⟩
  exact absurd (dumps_lose_nothing.1 _ _ hnull) nofun

end Session

end SchemaTypes
