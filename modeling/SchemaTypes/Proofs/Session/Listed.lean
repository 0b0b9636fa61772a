import SchemaTypes.Proofs.Schema.Listed
import SchemaTypes.Proofs.Session.Requests

set_option autoImplicit false

/-!
# Nodes that list their values

A node that is nothing but its types and a list of values has a type that stands for these values:
none that a type admits is lost, and none comes in besides.
-/

namespace SchemaTypes.Session

open Schema

variable {members : Members} {values : List Json}

/-- A node that is nothing but its types and its listed values fails if its types cannot be read,
and otherwise its type stands for its listed values: for a literal of each value that some type
admits, and besides for what is left of the types that admit none.  If it declares no types, every
listed text, number, truth value or `null` is represented. -/
theorem listed_values_are_kept (hmembers : ByTypes members) (hparts : Partless members)
    (hlisted : listed members = .values values) (session : Session) (location : Reference) :
    (∀ reason, declaredKinds members = .error reason →
      parseNode (.object members) location session =
        .error (.malformedSchema location.canonical reason) session) ∧
    ∀ declared, declaredKinds members = .ok declared →
      ∃ type final, parseNode (.object members) location session = .ok type final ∧
        Represents session.config members (kindsOf declared values) values type ∧
        (declared = [] → ∀ value ∈ values,
          (value = .null → .null ∈ type.unionMembers) ∧
          ∀ literal, scalar? value = some literal →
            ∃ other, .literal other ∈ type.unionMembers ∧ other.same literal = true) := by
  constructor
  · intro reason hreason
    unfold parseNode
    rw [hmembers.ofJson_of_listed hlisted, ofKinds, hreason]
    rfl
  · intro declared hdeclared
    obtain ⟨type, final, helaborate, hunion⟩ := hmembers.elaborate hparts hlisted hdeclared
      location (resolveWithin session.nestingBound none) session
    have hrepresents := represents_of_unionMembers hunion
    refine ⟨type, final, helaborate, hrepresents, ?_⟩
    rintro rfl value hvalue
    have hkind : Kind.ofValue value ∈ kindsOf [] values :=
      mem_foldl_addKind.mpr (Or.inr (List.mem_map_of_mem hvalue))
    constructor
    · rintro rfl
      exact hrepresents.null.mpr hkind
    · intro literal hreads
      rw [hunion, if_neg (List.ne_nil_of_mem hkind)]
      exact exists_literal hkind hvalue (admits_ofValue value) hreads

/-- An integer that two types admit, the two zeros among the doubles and a text twice, by a list of
types of which one admits none of them. -/
theorem listed_values_are_kept_mixed :
    let location := Reference.root "api.json"
    let zero (negative : Bool) : Number := .real (.zero negative)
    let values : List Json := [.number (zero true), .string "b", .number (.integer 3), .string "a",
      .number (zero false), .string "b"]
    let kinds : List Kind := [.integer, .number, .boolean, .string, .null]
    let members : Members :=
      [("enum", .array values), ("type", .array ((kinds.map Kind.name).map .string))]
    ByTypes members ∧ Partless members ∧ listed members = .values values ∧
      declaredKinds members = .ok kinds ∧
      ∃ type final, parseNode (.object members) location sample = .ok type final ∧
        Represents sample.config members kinds values type ∧
        type.same (.union [.literal (.number (.integer 3)), .literal (.number (zero true)),
          .boolean, .literal (.string "b"), .literal (.string "a"), .null]) = true := by
  intro location zero values kinds members
  have hmembers : ByTypes members := ⟨by decide, by decide⟩
  have hparts : Partless members := by unfold Partless; decide
  have hlisted : listed members = .values values := rfl
  have hdeclared : declaredKinds members = .ok kinds := by
    rw [declaredKinds_of_names rfl]
    decide +kernel
  obtain ⟨type, final, hparse, hrepresents, -⟩ :=
    (listed_values_are_kept hmembers hparts hlisted sample location).2 kinds hdeclared
  have hgiven : ∀ type ∈ (parseNode (.object members) location).given sample,
      type.same (.union [.literal (.number (.integer 3)), .literal (.number (zero true)),
        .boolean, .literal (.string "b"), .literal (.string "a"), .null]) = true := by
    decide +kernel
  refine ⟨hmembers, hparts, hlisted, hdeclared, type, final, hparse, hrepresents, ?_⟩
  apply hgiven
  rw [Run.given, hparse]
  exact List.mem_singleton_self type

end SchemaTypes.Session
