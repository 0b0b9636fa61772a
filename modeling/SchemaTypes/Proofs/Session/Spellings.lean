import SchemaTypes.Proofs.Resolve.Filing
import SchemaTypes.Proofs.Schema.Parsing
import SchemaTypes.Proofs.Schema.Spellings

set_option autoImplicit false

/-!
# Parsing different spellings

What is said of spellings carries over to parsing: spellings of the same schema are parsed alike,
and a node of several types is parsed like its copies of one type each, one after the other.  A
combination of one schema needs more than the schemas themselves, namely that types are in normal
form, which they are in all sessions that started fresh.  And of a node that is a reference only that
and the flags are looked at, as long as its `enum` is no obstacle.
-/

namespace SchemaTypes.Session

open Schema

/-! ## The same schema -/

/-- Two nodes at a place have the same types, where one of them has a type, and leave the same
session behind. -/
def ParsedAlike (session : Session) (location : Reference) (one other : Json) : Prop :=
  ∀ type final, parseNode one location session = .ok type final ↔
    parseNode other location session = .ok type final

theorem parsedAlike_of_alike {location : Reference} {one other : Json}
    (h : Alike (ofJson location one) (ofJson location other)) (session : Session) :
    session.ParsedAlike location one other :=
  fun type final => h (resolveWithin session.nestingBound none) session type final

/-- A combination of one schema is parsed like the schema if the types of the schema are in normal
form at their roots. -/
theorem parsedAlike_combined {session : Session} {keyword : String}
    (hkeyword : keyword ∈ combiningKeywords) (location : Reference) (node : Json)
    (hproper : ∀ place type final, parseNode node place session = .ok type final → type.Proper) :
    session.ParsedAlike location node (.object [(keyword, .array [node])]) := by
  intro type final
  -- inside the combination the node stands at another place, which shows in faults only
  have hplace := ignoresPlaces_alike.ofJson location ((location.child keyword).child "0") node
    (resolveWithin session.nestingBound none) session type final
  refine hplace.trans ?_
  unfold parseNode
  rcases ofJson_combined location hkeyword node with hall | hany
  · rw [hall, elaborate, combine_one fun type final h =>
      (hproper _ type final h).intersectionOf_singleton]
  · rw [hany, elaborate, combine_one fun type final h => (hproper _ type final h).unionOf_singleton]

/-- Whatever was requested of a session that started fresh: wherever a node stands, it is the same
whether `null` is a type besides the one type of a node or allowed by a flag, whether a value is the
`const` of a node or the only one of its `enum`, under which keyword for items known items stand,
and whether a schema is written as it is or as the only one of a combination. -/
theorem equivalent_spellings_parse_alike {store : Store} {root : String} {config : Config}
    {start : Session} (hstart : Session.start store root config = .ok start)
    (requests : List Request) (location : Reference) :
    let session := (Request.performAll requests start).2
    (∀ {base typed flagged extended : Members} {name : String} {kind : Kind}, ByTypes base →
      Kind.ofName? name = some kind → kind ≠ .null → declaredKinds base = .ok [kind] →
      Says typed base "type" (.array [.string name, .string "null"]) →
      Says flagged base "nullable" (.bool true) → Says extended base "x-nullable" (.bool true) →
      session.ParsedAlike location (.object typed) (.object flagged) ∧
        session.ParsedAlike location (.object flagged) (.object extended)) ∧
    (∀ {base one other : Members} {value : Json}, OrderedMap.get? base "enum" = none →
      Says one base "const" value → Says other base "enum" (.array [value]) →
      session.ParsedAlike location (.object one) (.object other)) ∧
    (∀ {base one other : Members} {items : List Json},
      OrderedMap.get? base "prefixItems" = none → Says one base "prefixItems" (.array items) →
      Says other base "items" (.array items) →
      session.ParsedAlike location (.object one) (.object other)) ∧
    ∀ keyword ∈ combiningKeywords, ∀ node : Json,
      session.ParsedAlike location node (.object [(keyword, .array [node])]) := by
  intro session
  refine ⟨?_, ?_, ?_, ?_⟩
  · intro base typed flagged extended name kind hbase hname hkind hdeclared htyped hflagged
      hextended
    have hboth := alike_types_with_null hbase hname hkind hdeclared htyped location
    have hflag := ofJson_flag (by decide) hbase.unflagged hflagged location
    have hextension := ofJson_flag (by decide) hbase.unflagged hextended location
    rw [← hflag] at hboth
    refine ⟨parsedAlike_of_alike hboth session, parsedAlike_of_alike ?_ session⟩
    rw [hflag, hextension]
    exact .refl _
  · intro base one other value habsent hone hother
    refine parsedAlike_of_alike ?_ session
    rw [ofJson_const habsent hone hother location]
    exact .refl _
  · intro base one other items habsent hone hother
    exact parsedAlike_of_alike (alike_prefixItems habsent hone hother location) session
  · intro keyword hkeyword node
    -- the only place where it matters what was requested before
    have hinherited := TypeExpr.inherited_inNormalForm
    have hfiled := filed_of_start hinherited hstart requests
    refine parsedAlike_combined hkeyword location node fun place type final h => ?_
    have hform := (gives_filed hinherited).elaborated (ofJson_plain place node) h hfiled
    exact hform.normal.proper

/-- After everything has been generated, lists of pairs of chains, a value, a pair of known items
and a reference have their types in all spellings. -/
theorem equivalent_spellings_parse_alike_sample :
    let session := (Request.performAll [.everything] sample).2
    let location := Reference.root "api.json"
    let pairs : Members := [("type", .string "array"), ("items", sampleLink "Pair")]
    let red : Members := [("nullable", .bool true)]
    let both : Members := [("type", .string "array")]
    let items := [sampleLink "Node", sampleLink "Label"]
    (∃ type final, ∀ node ∈ [
      pairs.insert "type" (.array [.string "array", .string "null"]),
      pairs.insert "nullable" (.bool true), pairs.insert "x-nullable" (.bool true)],
        parseNode (.object node) location session = .ok type final) ∧
    (∃ type final, ∀ node ∈ [
      red.insert "const" (.string "red"), red.insert "enum" (.array [.string "red"])],
        parseNode (.object node) location session = .ok type final) ∧
    (∃ type final, ∀ node ∈ [
      both.insert "prefixItems" (.array items), both.insert "items" (.array items)],
        parseNode (.object node) location session = .ok type final) ∧
    ∃ type final, ∀ keyword ∈ combiningKeywords,
      parseNode (sampleLink "Pair") location session = .ok type final ∧
      parseNode (.object [(keyword, .array [sampleLink "Pair"])]) location session =
        .ok type final := by
  intro session location pairs red both items
  obtain ⟨hnull, hconst, hitems, hcombined⟩ :=
    equivalent_spellings_parse_alike start_sample [.everything] location
  refine ⟨?_, ?_, ?_, ?_⟩
  · have hgiven : ((parseNode (.object (pairs.insert "nullable" (.bool true))) location).given
        session).isEmpty = false := by
      decide +kernel
    obtain ⟨type, final, hflagged⟩ := Run.ok_of_given_isEmpty hgiven
    have hpairs : ByTypes pairs := ⟨by decide, by decide⟩
    have harray : Kind.ofName? "array" = some .array := by decide
    obtain ⟨htyped, hextended⟩ := hnull hpairs harray (by decide) (by decide) (says_insert _ _ _)
      (says_insert _ _ _) (says_insert _ _ _)
    refine ⟨type, final, ?_⟩
    simp only [List.forall_mem_cons]
    exact ⟨(htyped _ _).mpr hflagged, hflagged, (hextended _ _).mp hflagged, nofun⟩
  · have hgiven : ((parseNode (.object (red.insert "const" (.string "red"))) location).given
        session).isEmpty = false := by
      decide +kernel
    obtain ⟨type, final, hone⟩ := Run.ok_of_given_isEmpty hgiven
    have habsent : OrderedMap.get? red "enum" = none := by decide
    have hparsed := hconst habsent (says_insert _ "const" (.string "red")) (says_insert _ _ _)
    refine ⟨type, final, ?_⟩
    simp only [List.forall_mem_cons]
    exact ⟨hone, (hparsed _ _).mp hone, nofun⟩
  · have hgiven : ((parseNode (.object (both.insert "items" (.array items))) location).given
        session).isEmpty = false := by
      decide +kernel
    obtain ⟨type, final, hother⟩ := Run.ok_of_given_isEmpty hgiven
    have habsent : OrderedMap.get? both "prefixItems" = none := by decide
    have hparsed := hitems habsent (says_insert _ "prefixItems" (.array items)) (says_insert _ _ _)
    refine ⟨type, final, ?_⟩
    simp only [List.forall_mem_cons]
    exact ⟨(hparsed _ _).mpr hother, hother, nofun⟩
  · have hgiven : ((parseNode (sampleLink "Pair") location).given session).isEmpty = false := by
      decide +kernel
    obtain ⟨type, final, hlink⟩ := Run.ok_of_given_isEmpty hgiven
    exact ⟨type, final, fun keyword hkeyword =>
      ⟨hlink, (hcombined keyword hkeyword _ _ _).mp hlink⟩⟩

/-! ## Several types -/

section Types

variable {members : Members} {names : List String}

/-- The node with one name in the place of its types. -/
def retyped (members : Members) (name : String) : Json :=
  .object (OrderedMap.insert members "type" (.string name))

theorem ofJson_retyped (hmembers : ByTypes members) {name : String} {kind : Kind}
    (hname : Kind.ofName? name = some kind) (location : Reference) :
    ofJson location (retyped members name) = declaring location members [kind] := by
  have hsays := says_insert members "type" (.string name)
  have hdeclared : declaredKinds (OrderedMap.insert members "type" (.string name)) =
      .ok [kind] := by
    rw [declaredKinds_of_name hsays.value]
    simp [kindsOfNames, hname, addKind]
  exact hmembers.ofJson_of_agree hsays.rest hdeclared (List.cons_ne_nil _ _) location

/-- Parsing the copies of a node one after the other is elaborating what they declare; how deep
references may nest is the same for all of them. -/
theorem inOrder_retyped (hmembers : ByTypes members) (location : Reference)
    (hnames : ∀ name ∈ names, ∃ kind, Kind.ofName? name = some kind) (session : Session) :
    inOrder ((names.map (retyped members)).map (parseNode · location)) session =
      inOrder ((names.filterMap Kind.ofName?).map fun kind =>
        (declaring location members [kind]).elaborate
          (resolveWithin session.nestingBound none)) session := by
  induction names generalizing session with
  | nil => rfl
  | cons name rest ih =>
    obtain ⟨kind, hkind⟩ := hnames name List.mem_cons_self
    have hrest := ih fun other hmem => hnames other (List.mem_cons_of_mem _ hmem)
    have hparse : parseNode (retyped members name) location session =
        (declaring location members [kind]).elaborate (resolveWithin session.nestingBound none)
          session := by
      rw [← ofJson_retyped hmembers hkind]
      rfl
    rw [List.filterMap_cons_some hkind]
    simp only [List.map_cons, inOrder]
    cases hfirst : (declaring location members [kind]).elaborate
        (resolveWithin session.nestingBound none) session with
    | ok type middle =>
      have hgrows := elaborate_obeys (resolveWithin_obeys session.nestingBound none)
        (declaring location members [kind]) session
      rw [Run.after_of_ok hfirst] at hgrows
      have hsecond := hrest middle
      rw [hgrows.nestingBound_eq] at hsecond
      rw [Run.bind_of_ok hfirst, Run.bind_of_ok (hparse.trans hfirst)]
      exact Run.bind_congr hsecond _
    | error fault middle =>
      rw [Run.bind_of_error hfirst, Run.bind_of_error (hparse.trans hfirst)]

/-- A node of several types is parsed like its copies of one type each, one after the other. -/
theorem parseNode_of_names (hmembers : ByTypes members)
    (htype : OrderedMap.get? members "type" = some (.array (names.map .string)))
    (hknown : knownNames names ≠ []) (session : Session) (location : Reference) :
    parseNode (.object members) location session =
      (do
        let types ← inOrder (((knownNames names).map (retyped members)).map (parseNode · location))
        return TypeExpr.unionOf types : Run TypeExpr) session := by
  have hnames : ∀ name ∈ knownNames names, ∃ kind, Kind.ofName? name = some kind :=
    fun name hmem => (mem_knownNames.mp hmem).2
  unfold parseNode
  rw [hmembers.ofJson_of_names (fun _ _ => rfl) htype hknown,
    elaborate_declaring (filterMap_knownNames_ne_nil hknown)]
  exact (Run.bind_congr (inOrder_retyped hmembers location hnames session) _).symm

/-- A node of several types has the union of the types that its copies of one type each have, and
leaves behind what they leave when they are parsed one after the other; it has no type if one of
them has none.  Unknown names and names that have been there before make no difference. -/
theorem types_distribute_over_union (hmembers : ByTypes members)
    (htype : OrderedMap.get? members "type" = some (.array (names.map .string)))
    (hknown : ∃ name ∈ names, (Kind.ofName? name).isSome) (session : Session)
    (location : Reference) :
    let copies := (knownNames names).map fun name =>
      Json.object (OrderedMap.insert members "type" (.string name))
    (∀ type final, parseNode (.object members) location session = .ok type final ↔
      ∃ types, inOrder (copies.map (parseNode · location)) session = .ok types final ∧
        type = TypeExpr.unionOf types) ∧
    ∀ {other : Members} {others : List String},
      Says other members "type" (.array (others.map .string)) →
      knownNames others = knownNames names →
      parseNode (.object other) location session =
        parseNode (.object members) location session := by
  intro copies
  obtain ⟨name, hname, hkind⟩ := hknown
  have hsome : knownNames names ≠ [] :=
    List.ne_nil_of_mem (mem_knownNames.mpr ⟨hname, Option.isSome_iff_exists.mp hkind⟩)
  have hparse := parseNode_of_names hmembers htype hsome session location
  constructor
  · intro type final
    rw [hparse]
    constructor
    · intro h
      obtain ⟨types, middle, htypes, hunion⟩ := Run.bind_ok h
      obtain ⟨rfl, rfl⟩ := Run.pure_ok hunion
      exact ⟨types, htypes, rfl⟩
    · rintro ⟨types, htypes, rfl⟩
      exact Run.bind_of_ok htypes _
  · intro other others hsays hsame
    unfold parseNode
    rw [hmembers.ofJson_of_names hsays.rest hsays.value (hsame ▸ hsome),
      hmembers.ofJson_of_names (fun _ _ => rfl) htype hsome, hsame]

/-- A node that is an object with a reference inside, or a list of labels, and that names a type
that nobody knows and one type twice. -/
theorem types_distribute_over_union_sample :
    let location := Reference.root "api.json"
    let members : Members :=
      [("type", .array [.string "object", .string "mystery", .string "array", .string "object"]),
        ("properties", .object [("next", sampleLink "Node")]), ("items", sampleLink "Label")]
    ∃ types final,
      inOrder [
        parseNode (.object (members.insert "type" (.string "object"))) location,
        parseNode (.object (members.insert "type" (.string "array"))) location] sample =
          .ok types final ∧
      ∀ node ∈ [members,
        members.insert "type" (.array [.string "object", .string "array"])],
          parseNode (.object node) location sample = .ok (TypeExpr.unionOf types) final := by
  intro location members
  have hmembers : ByTypes members := ⟨by decide, by decide⟩
  have htype : OrderedMap.get? members "type" =
      some (.array (["object", "mystery", "array", "object"].map .string)) := rfl
  obtain ⟨hunion, hnames⟩ := types_distribute_over_union hmembers htype
    ⟨"object", by decide, by decide⟩ sample location
  have hgiven : ((parseNode (.object members) location).given sample).isEmpty = false := by
    decide +kernel
  obtain ⟨type, final, hparse⟩ := Run.ok_of_given_isEmpty hgiven
  obtain ⟨types, htypes, rfl⟩ := (hunion type final).mp hparse
  have hsays : Says (members.insert "type" (.array [.string "object", .string "array"])) members
      "type" (.array (["object", "array"].map .string)) := says_insert _ _ _
  have hother := hnames hsays (by decide)
  refine ⟨types, final, htypes, ?_⟩
  simp only [List.forall_mem_cons]
  exact ⟨hparse, hother.trans hparse, nofun⟩

end Types

/-! ## References and what stands beside them -/

section References

variable {one other : Members} {target : String}

/-- A node that is a reference and whose `enum` is a list, if it has one, is parsed like any other
such node with the same reference and the same flags, wherever these stand and whatever else they
say.  An `enum` that is no list is a fault though, as it is beside anything else. -/
theorem references_decide_nodes_or_enums_fail
    (href : OrderedMap.get? one "$ref" = some (.string target)) (session : Session)
    (location : Reference) :
    (EnumIsList one → ∀ {other : Members} (place : Reference),
      OrderedMap.get? other "$ref" = some (.string target) → EnumIsList other →
      isNullable one = isNullable other →
      parseNode (.object one) location session = parseNode (.object other) place session) ∧
    (¬ EnumIsList one → parseNode (.object one) location session =
      .error (.malformedSchema location.canonical "`enum` must be an array") session) := by
  constructor
  · intro henum other place hother henum' hnullable
    unfold parseNode
    rw [ofJson_reference href henum, ofJson_reference hother henum', hnullable]
  · exact fun henum => elaborate_of_enum henum location _ session

/-- A reference to a label with members beside it that no other node could have is parsed like
another one that stands elsewhere; with a number for its `enum` it fails. -/
theorem references_decide_nodes_or_enums_fail_label :
    let location := Reference.root "api.json"
    let target := Json.string "#/components/schemas/Label"
    let link : Members :=
      [("nullable", .bool true), ("$ref", target), ("allOf", .null), ("type", .null)]
    (∃ type final, parseNode (.object link) location sample = .ok type final ∧
      parseNode (.object [("$ref", target), ("x-nullable", .bool true)]) (sampleReference "Pair")
        sample = .ok type final) ∧
    parseNode (.object (link.insert "enum" (.number (.integer 5)))) location sample =
      .error (.malformedSchema location.canonical "`enum` must be an array") sample := by
  intro location target link
  have href : OrderedMap.get? link "$ref" = some (.string "#/components/schemas/Label") := rfl
  have href' : OrderedMap.get? (link.insert "enum" (.number (.integer 5))) "$ref" =
      some (.string "#/components/schemas/Label") := rfl
  obtain ⟨hlink, -⟩ := references_decide_nodes_or_enums_fail href sample location
  obtain ⟨-, henum⟩ := references_decide_nodes_or_enums_fail href' sample location
  have hgiven : ((parseNode (.object link) location).given sample).isEmpty = false := by
    decide +kernel
  obtain ⟨type, final, hparse⟩ := Run.ok_of_given_isEmpty hgiven
  have henum' : EnumIsList [("$ref", target), ("x-nullable", .bool true)] := nofun
  have hother := hlink nofun (sampleReference "Pair") rfl henum' rfl
  refine ⟨⟨type, final, hparse, hother.symm.trans hparse⟩, henum fun h => ?_⟩
  obtain ⟨items, hitems⟩ := h _ rfl
  cases hitems

/-- With a number for its `enum`, a reference to a label fails where the reference alone has a
type. -/
theorem references_need_not_decide_nodes :
    ¬ ∀ (session : Session) (location : Reference) (one other : Members) (target : String),
      OrderedMap.get? one "$ref" = some (.string target) →
      OrderedMap.get? other "$ref" = some (.string target) →
      isNullable one = isNullable other →
      parseNode (.object one) location session = parseNode (.object other) location session := by
  intro h
  let link : Members := [("$ref", .string "#/components/schemas/Label")]
  have hsame := h sample (Reference.root "api.json") link
    (link.insert "enum" (.number (.integer 5))) "#/components/schemas/Label" rfl rfl rfl
  have hgiven : ((parseNode (.object link) (Reference.root "api.json")).given sample).isEmpty =
      false := by
    decide +kernel
  have hfails : ((parseNode (.object (link.insert "enum" (.number (.integer 5))))
      (Reference.root "api.json")).given sample).isEmpty = true := by
    decide +kernel
  unfold Run.given at hgiven hfails
  rw [hsame, hfails] at hgiven
  cases hgiven

end References

end SchemaTypes.Session
