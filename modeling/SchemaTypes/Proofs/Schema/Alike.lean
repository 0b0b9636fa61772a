import SchemaTypes.Proofs.Schema.Elaboration
import SchemaTypes.Proofs.Schema.Keywords
import SchemaTypes.Proofs.TypeExpr.Algebra

set_option autoImplicit false

/-!
# Schemas with the same types

Two schemas are alike if they have the same types wherever one of them has a type, and leave the
same session behind; nothing is said of the faults that they end with.  This is kept when schemas
are put together, and where a node stands shows in faults only, so that a node has alike schemas at
all places.  The schema of a node by one type has a type that is in normal form at its root, so that
a union of it alone is the schema itself.
-/

namespace SchemaTypes

namespace Run

variable {α β : Type} {step other : Run α}

/-- Whenever one of two steps gives a value, the other one gives the same and leaves the same
session behind. -/
def SucceedsLike (step other : Run α) : Prop :=
  ∀ session value final, step session = .ok value final ↔ other session = .ok value final

theorem SucceedsLike.refl (step : Run α) : step.SucceedsLike step := fun _ _ _ => Iff.rfl

theorem SucceedsLike.symm (h : step.SucceedsLike other) : other.SucceedsLike step :=
  fun session value final => (h session value final).symm

theorem SucceedsLike.ok_bind {next others : α → Run β} (h : step.SucceedsLike other)
    (hnext : ∀ value, (next value).SucceedsLike (others value)) {session final : Session}
    {value : β} (hboth : (step >>= next) session = .ok value final) :
    (other >>= others) session = .ok value final := by
  obtain ⟨first, middle, hfirst, hsecond⟩ := bind_ok hboth
  rw [bind_of_ok ((h _ _ _).mp hfirst)]
  exact (hnext first middle value final).mp hsecond

theorem SucceedsLike.bind {next others : α → Run β} (h : step.SucceedsLike other)
    (hnext : ∀ value, (next value).SucceedsLike (others value)) :
    (step >>= next).SucceedsLike (other >>= others) :=
  fun _ _ _ => ⟨h.ok_bind hnext, h.symm.ok_bind fun value => (hnext value).symm⟩

end Run

namespace Schema

variable {resolve : Reference → Run TypeExpr}

/-! ## Alike schemas -/

/-- Two schemas have the same types, if they have types. -/
def Alike (schema other : Schema) : Prop :=
  ∀ resolve, (schema.elaborate resolve).SucceedsLike (other.elaborate resolve)

theorem Alike.refl (schema : Schema) : Alike schema schema := fun _ => .refl _

theorem Alike.elaborateAll {schemas others : List Schema} (h : List.Forall₂ Alike schemas others)
    (resolve : Reference → Run TypeExpr) :
    (elaborateAll resolve schemas).SucceedsLike (elaborateAll resolve others) := by
  induction h with
  | nil => exact .refl _
  | cons hfirst _ ih => exact (hfirst resolve).bind fun _ => ih.bind fun _ => .refl _

theorem Alike.elaborateFields {fields others : List (FieldLabel × Schema)}
    (h : List.Forall₂ (fun field other => field.1 = other.1 ∧ Alike field.2 other.2) fields others)
    (resolve : Reference → Run TypeExpr) :
    (elaborateFields resolve fields).SucceedsLike (elaborateFields resolve others) := by
  induction h with
  | nil => exact .refl _
  | @cons field other _ _ hfirst _ ih =>
    obtain ⟨label, schema⟩ := field
    obtain ⟨_, schema'⟩ := other
    obtain ⟨rfl, hschema⟩ := hfirst
    exact (hschema resolve).bind fun _ => ih.bind fun _ => .refl _

/-- Schemas that are put together out of alike schemas are alike, and what cannot be read is as good
as anything else that cannot be read. -/
theorem ignoresPlaces_alike : IgnoresPlaces Alike where
  refl := Alike.refl
  allOf h resolve := (Alike.elaborateAll h resolve).bind fun _ => .refl _
  anyOf h resolve := (Alike.elaborateAll h resolve).bind fun _ => .refl _
  nullable h resolve := (h resolve).bind fun _ => .refl _
  array h resolve := (h resolve).bind fun _ => .refl _
  tuple h resolve := (Alike.elaborateAll h resolve).bind fun _ => .refl _
  dictionary h resolve := (h resolve).bind fun _ => .refl _
  record h resolve := by
    rw [elaborate, elaborate]
    exact (Alike.elaborateFields h resolve).bind fun _ => .refl _
  malformed _ _ _ _ _ _ _ := ⟨nofun, nofun⟩

/-! ## One type -/

/-- The type of the schema is in normal form at its root, whatever the types of its parts are. -/
def Whole : Schema → Prop
  | exactly type => type.Proper
  | reference _ => False
  | allOf _ => False
  | anyOf _ => False
  | nullable _ => False
  | _ => True

theorem Whole.proper {schema : Schema} (h : schema.Whole) {session final : Session}
    {type : TypeExpr} (helaborate : schema.elaborate resolve session = .ok type final) :
    type.Proper := by
  cases schema with
  | malformed => cases helaborate
  | exactly =>
    obtain ⟨rfl, -⟩ := Run.pure_ok helaborate
    exact h
  | text format =>
    rcases textType_ok helaborate with ⟨rfl, -⟩ | ⟨display, backing, path, rfl, -⟩
    · trivial
    · trivial
  | array items =>
    obtain ⟨inner, middle, -, hpure⟩ := Run.bind_ok helaborate
    obtain ⟨rfl, -⟩ := Run.pure_ok hpure
    trivial
  | tuple items =>
    obtain ⟨types, middle, -, hpure⟩ := Run.bind_ok helaborate
    obtain ⟨rfl, -⟩ := Run.pure_ok hpure
    trivial
  | dictionary values =>
    obtain ⟨inner, middle, -, hpure⟩ := Run.bind_ok helaborate
    obtain ⟨rfl, -⟩ := Run.pure_ok hpure
    trivial
  | record fields =>
    rw [elaborate] at helaborate
    obtain ⟨types, middle, -, hpure⟩ := Run.bind_ok helaborate
    obtain ⟨rfl, -⟩ := Run.pure_ok hpure
    trivial
  | _ => exact h.elim

theorem whole_literalsOr {values : List Json} {kind : Kind} {otherwise : Schema}
    (h : otherwise.Whole) : (literalsOr values kind otherwise).Whole := by
  unfold literalsOr
  split
  · exact h
  · apply TypeExpr.proper_unionOf
    intro part hpart
    obtain ⟨value, -, rfl⟩ := List.mem_map.mp hpart
    intro s hs
    rw [List.mem_singleton.mp hs]
    trivial

section Node

variable {location : Reference} {members : Members} {parts : Parts}

theorem whole_ofArray : (ofArray location members parts).Whole := by
  unfold ofArray
  split
  · trivial
  · trivial
  · split <;> trivial

theorem whole_ofObject : (ofObject location members parts).Whole := by
  unfold ofObject
  split
  · trivial
  · trivial
  · split <;> trivial

/-- The schema of a node by one type is whole. -/
theorem whole_ofKind (values : List Json) (kind : Kind) :
    (ofKind location members values parts kind).Whole := by
  cases kind with
  | string => exact whole_literalsOr trivial
  | number => exact whole_literalsOr trivial
  | integer => exact whole_literalsOr trivial
  | boolean => exact whole_literalsOr trivial
  | null => trivial
  | array => exact whole_ofArray
  | object => exact whole_ofObject

end Node

/-- Combining the type of one schema changes nothing if it gives back every type of the schema. -/
theorem combine_one {schema : Schema} {session : Session} {combine : List TypeExpr → TypeExpr}
    (h : ∀ type final, schema.elaborate resolve session = .ok type final → combine [type] = type) :
    (do let types ← elaborateAll resolve [schema]; return combine types : Run TypeExpr) session =
      schema.elaborate resolve session := by
  cases hschema : schema.elaborate resolve session with
  | ok type final =>
    have hlist : elaborateAll resolve [schema] session = .ok [type] final := by
      rw [elaborateAll, Run.bind_of_ok hschema]
      rfl
    rw [Run.bind_of_ok hlist]
    exact congrArg (EStateM.Result.ok · final) (h type final hschema)
  | error fault final =>
    have hlist : elaborateAll resolve [schema] session = .error fault final := by
      rw [elaborateAll, Run.bind_of_error hschema]
    rw [Run.bind_of_error hlist]

/-- A union of one whole schema is as good as the schema. -/
theorem Whole.elaborate_anyOf {schema : Schema} (h : schema.Whole) :
    (anyOf [schema]).elaborate resolve = schema.elaborate resolve := by
  funext session
  rw [elaborate]
  exact combine_one fun _ _ helaborate => (h.proper helaborate).unionOf_singleton

/-- A union of a whole schema and `null` is as good as the schema, or `null`. -/
theorem Whole.elaborate_anyOf_null {schema : Schema} (h : schema.Whole) :
    (anyOf [schema, exactly .null]).elaborate resolve =
      (nullable (anyOf [schema])).elaborate resolve := by
  funext session
  rw [elaborate, elaborate, h.elaborate_anyOf]
  cases hschema : schema.elaborate resolve session with
  | ok type final =>
    have hlist : elaborateAll resolve [schema, exactly .null] session =
        .ok [type, .null] final := by
      rw [elaborateAll, Run.bind_of_ok hschema]
      rfl
    rw [Run.bind_of_ok hlist, Run.bind_of_ok hschema]
    rfl
  | error fault final =>
    have hlist : elaborateAll resolve [schema, exactly .null] session = .error fault final := by
      rw [elaborateAll, Run.bind_of_error hschema]
    rw [Run.bind_of_error hlist, Run.bind_of_error hschema]

end Schema

end SchemaTypes
