import SchemaTypes.Proofs.Schema.Questions
import SchemaTypes.Proofs.Store.Places
import SchemaTypes.Proofs.TypeExpr.Occurrences

set_option autoImplicit false

/-!
# Resolving without a memory

The plain recursion that resolves a reference: its target is read with every reference in it
replaced by the result of the recursion, and if the type that comes out contains a record, the
result is the identifier of the default name, else it is that type.  Nothing is remembered, and
nothing depends on what was resolved before.

The references that the recursion meets while it reads the target of another one are the edges of a
graph.  Where no cycle can be reached the recursion comes to an end: it goes no deeper than there
are nodes in the store.
-/

namespace SchemaTypes

/-! ## Types that contain a record -/

namespace TypeExpr

/-- Whether the type is a record. -/
def isRecord : TypeExpr → Bool
  | record _ => true
  | _ => false

/-- Whether a record occurs in the type at any depth. -/
def containsRecord (t : TypeExpr) : Bool := t.occurrences.any isRecord

mutual

/-- The types that get declarations are those that contain a record. -/
theorem containsRecord_eq_qualifies : ∀ t : TypeExpr, t.containsRecord = t.qualifies
  | array element => containsRecord_eq_qualifies element
  | record _ => rfl
  | dictionary values => containsRecord_eq_qualifies values
  | union members => any_isRecord_eq_anyQualifies members
  | intersection members => any_isRecord_eq_anyQualifies members
  | tuple items => any_isRecord_eq_anyQualifies items
  | recursive _ body => containsRecord_eq_qualifies body
  | primitive _ => rfl
  | literal _ => rfl
  | identifier _ _ => rfl
  | provided _ _ => rfl
  | unknown => rfl

theorem any_isRecord_eq_anyQualifies : ∀ types : List TypeExpr,
    (listOccurrences types).any isRecord = anyQualifies types
  | [] => rfl
  | t :: rest => by
    rw [listOccurrences, anyQualifies, List.any_append, any_isRecord_eq_anyQualifies rest,
      ← containsRecord_eq_qualifies t, containsRecord]

end

end TypeExpr

/-! ## The recursion -/

/-- What resolving a reference depends on: nothing else is ever the same for all of a session. -/
structure Surroundings where
  root : String
  store : Store
  config : Config

/-- What never changes in a session. -/
def Session.surroundings (session : Session) : Surroundings :=
  ⟨session.root, session.store, session.config⟩

/-- Computations that note the references they meet. -/
abbrev Noting (α : Type) := EStateM Fault (List Reference) α

namespace Result

variable {σ α : Type}

/-- What a computation gives, without its state. -/
def outcome : EStateM.Result Fault σ α → Except Fault α
  | .ok value _ => .ok value
  | .error fault _ => .error fault

/-- The state after a computation. -/
def state : EStateM.Result Fault σ α → σ
  | .ok _ after => after
  | .error _ after => after

theorem exists_ok {result : EStateM.Result Fault σ α} {value : α}
    (h : outcome result = .ok value) : ∃ after, result = .ok value after := by
  cases result with
  | ok other after =>
    cases h
    exact ⟨after, rfl⟩
  | error fault after => cases h

theorem exists_error {result : EStateM.Result Fault σ α} {fault : Fault}
    (h : outcome result = .error fault) : ∃ after, result = .error fault after := by
  cases result with
  | ok value after => cases h
  | error other after =>
    cases h
    exact ⟨after, rfl⟩

end Result

namespace Surroundings

variable (s : Surroundings)

/-- The name that a reference gets if it is not asked for otherwise. -/
def defaultName (r : Reference) : ModelName :=
  if r.document = s.root then NamingPolicy.component.name r
  else (NamingPolicy.external s.config.externalNamespace).name r

/-- Strings of a format. -/
def textType : Option String → TypeExpr
  | none => .string
  | some format =>
    if s.config.isTemporal format then
      .provided s.config.dateType.displayName s.config.dateType.backingName
    else .string

/-- The answer to a question that is asked in a document. -/
def answer (resolve : Reference → Except Fault TypeExpr) (document : String) :
    Schema.Question → Except Fault TypeExpr
  | .malformed location reason => .error (.malformedSchema location.canonical reason)
  | .reference target => Reference.parse target document >>= resolve
  | .text format => .ok (s.textType format)

/-- The type of the target of a reference by the results for the references in it. -/
def targetType (resolve : Reference → Except Fault TypeExpr) (r : Reference) :
    Except Fault TypeExpr := do
  let node ← s.store.resolve r
  (Schema.ofJson r node).typeBy (s.answer resolve r.document)

/-- The result for a reference by the results for those in its target. -/
def follow (resolve : Reference → Except Fault TypeExpr) (r : Reference) :
    Except Fault TypeExpr := do
  let type ← s.targetType resolve r
  return if type.containsRecord then (s.defaultName r).identifier else type

/-- The result for a reference; references may nest `depth` deep. -/
def direct : Nat → Reference → Except Fault TypeExpr
  | 0, _ => .error .nestingExhausted
  | depth + 1, r => s.follow (direct depth) r

/-- The result for a reference, where references nest no deeper than the nodes of the store allow.
-/
def result (r : Reference) : Except Fault TypeExpr := s.direct (s.store.nodeCount + 1) r

/-! ## The graph of references -/

/-- The answer to a question, after which the reference that it denotes is noted. -/
def note (resolve : Reference → Except Fault TypeExpr) (document : String)
    (q : Schema.Question) : Noting TypeExpr := fun met =>
  match s.answer resolve document q with
  | .ok type => .ok type (met ++ q.references document)
  | .error fault => .error fault (met ++ q.references document)

/-- The references met while the target of a reference is read, up to the first fault. -/
def met (resolve : Reference → Except Fault TypeExpr) (r : Reference) : List Reference :=
  match s.store.resolve r with
  | .error _ => []
  | .ok node => Result.state ((Schema.ofJson r node).typeBy (s.note resolve r.document) [])

/-- The recursion meets a reference while it reads the target of another one. -/
def Meets (r inner : Reference) : Prop := ∃ depth, inner ∈ s.met (s.direct depth) r

/-- A reference is one of some given ones, or it is met on the way from one of them. -/
def Reached (given : Reference → Prop) (r : Reference) : Prop :=
  ∃ first, given first ∧ Relation.ReflTransGen s.Meets first r

/-- References that are reached have different default names. -/
def DistinctNames (given : Reference → Prop) : Prop :=
  ∀ r other, s.Reached given r → s.Reached given other → s.defaultName r = s.defaultName other →
    r = other

/-- No reference that is reached leads back to itself. -/
def Acyclic (given : Reference → Prop) : Prop :=
  ∀ r, s.Reached given r → ¬ Relation.TransGen s.Meets r r

variable {s} {resolve other : Reference → Except Fault TypeExpr}

theorem Reached.meets {given : Reference → Prop} {r inner : Reference} (h : s.Reached given r)
    (hmeets : s.Meets r inner) : s.Reached given inner := by
  obtain ⟨first, hfirst, hpath⟩ := h
  exact ⟨first, hfirst, hpath.tail hmeets⟩

/-- References that lead to one lead to those that are met in its target, as it does itself. -/
theorem Meets.lead {path : List Reference} {r inner : Reference} (hmeets : s.Meets r inner)
    (hpath : ∀ outer ∈ path, Relation.TransGen s.Meets outer r) :
    ∀ outer ∈ path ++ [r], Relation.TransGen s.Meets outer inner :=
  List.forall_mem_append.mpr ⟨fun outer houter => (hpath outer houter).tail hmeets,
    List.forall_mem_singleton.mpr (.single hmeets)⟩

/-! ## What is noted -/

/-- A computation that notes references comes out like one that does not. -/
def SameOutcome (α : Type) (x : Noting α) (y : Except Fault α) : Prop :=
  ∀ met, Result.outcome (x met) = y

theorem relates_sameOutcome : Schema.Relates SameOutcome where
  pure _ _ := rfl
  bind := by
    intro α β x y f g hfirst hsecond met
    have hx := hfirst met
    cases hstep : x met with
    | ok value middle =>
      rw [hstep] at hx
      rw [Run.bind_of_ok hstep, ← hx]
      exact hsecond value middle
    | error fault middle =>
      rw [hstep] at hx
      rw [Run.bind_of_error hstep, ← hx]
      rfl

theorem sameOutcome_note (document : String) (q : Schema.Question) :
    SameOutcome TypeExpr (s.note resolve document q) (s.answer resolve document q) := by
  intro met
  unfold note
  cases s.answer resolve document q <;> rfl

/-- Noting the references met makes no difference to the type. -/
theorem outcome_typeBy (document : String) (schema : Schema) (met : List Reference) :
    Result.outcome (schema.typeBy (s.note resolve document) met) =
      schema.typeBy (s.answer resolve document) :=
  relates_sameOutcome.typeBy schema (fun q _ => sameOutcome_note document q) met

theorem state_note (document : String) (q : Schema.Question) (met : List Reference) :
    Result.state (s.note resolve document q met) = met ++ q.references document := by
  unfold note
  cases s.answer resolve document q <;> rfl

/-! ## Depths that suffice -/

/-- As long as only good references are noted, two computations come out alike, and not because
references nest too deep. -/
def Sure (Good : Reference → Prop) (α : Type) (x y : Noting α) : Prop :=
  ∀ met, met <+: Result.state (x met) ∧
    ((∀ r ∈ Result.state (x met), Good r) →
      y met = x met ∧ Result.outcome (x met) ≠ .error .nestingExhausted)

theorem relates_sure (Good : Reference → Prop) : Schema.Relates (Sure Good) where
  pure value met := ⟨List.prefix_rfl, fun _ => ⟨rfl, fun h => by cases h⟩⟩
  bind := by
    intro α β x y f g hfirst hsecond met
    obtain ⟨hkeeps, hsure⟩ := hfirst met
    cases hstep : x met with
    | ok value middle =>
      rw [hstep] at hkeeps hsure
      obtain ⟨hlater, hnext⟩ := hsecond value middle
      rw [Run.bind_of_ok hstep]
      refine ⟨hkeeps.trans hlater, fun hgood => ?_⟩
      obtain ⟨hsame, -⟩ := hsure fun r hr => hgood r (hlater.subset hr)
      rw [Run.bind_of_ok hsame]
      exact hnext hgood
    | error fault middle =>
      rw [hstep] at hkeeps hsure
      rw [Run.bind_of_error hstep]
      refine ⟨hkeeps, fun hgood => ?_⟩
      obtain ⟨hsame, hnot⟩ := hsure hgood
      rw [Run.bind_of_error hsame]
      refine ⟨rfl, fun hfault => ?_⟩
      cases hfault
      exact hnot rfl

theorem answer_congr {document : String} {q : Schema.Question}
    (h : ∀ r ∈ q.references document,
      other r = resolve r ∧ resolve r ≠ .error .nestingExhausted) :
    s.answer other document q = s.answer resolve document q ∧
      s.answer resolve document q ≠ .error .nestingExhausted := by
  cases q with
  | malformed location reason => exact ⟨rfl, fun hfault => by cases hfault⟩
  | text format => exact ⟨rfl, fun hfault => by cases hfault⟩
  | reference target =>
    simp only [Schema.Question.references, answer] at h ⊢
    cases hparse : Reference.parse target document with
    | error fault =>
      refine ⟨rfl, fun hfault => ?_⟩
      cases hfault
      exact Reference.parse_ne_exhausted hparse
    | ok r =>
      rw [hparse] at h
      exact h r (List.mem_singleton_self r)

theorem sure_note {Good : Reference → Prop}
    (h : ∀ r, Good r → other r = resolve r ∧ resolve r ≠ .error .nestingExhausted)
    (document : String) (q : Schema.Question) :
    Sure Good TypeExpr (s.note resolve document q) (s.note other document q) := by
  intro met
  rw [state_note, sameOutcome_note document q met]
  refine ⟨List.prefix_append _ _, fun hgood => ?_⟩
  have hanswer : s.answer other document q = s.answer resolve document q ∧
      s.answer resolve document q ≠ .error .nestingExhausted :=
    answer_congr fun r hr => h r (hgood r (List.mem_append_right _ hr))
  obtain ⟨hsame, hnot⟩ := hanswer
  unfold note
  rw [hsame]
  exact ⟨rfl, hnot⟩

/-- The result for a reference depends only on those for the references met in its target. -/
theorem follow_congr {r : Reference}
    (h : ∀ inner ∈ s.met resolve r,
      other inner = resolve inner ∧ resolve inner ≠ .error .nestingExhausted) :
    s.follow other r = s.follow resolve r ∧ s.follow resolve r ≠ .error .nestingExhausted := by
  unfold met at h
  unfold follow targetType
  cases hnode : s.store.resolve r with
  | error fault =>
    refine ⟨rfl, fun hfault => ?_⟩
    cases hfault
    exact Store.resolve_ne_exhausted hnode
  | ok node =>
    rw [hnode] at h
    obtain ⟨-, hsure⟩ := (relates_sure _).typeBy (Schema.ofJson r node)
      (fun q _ => sure_note (fun _ hgood => hgood) r.document q) []
    obtain ⟨hsame, hnot⟩ := hsure h
    have hother : (Schema.ofJson r node).typeBy (s.answer other r.document) =
        (Schema.ofJson r node).typeBy (s.answer resolve r.document) := by
      rw [← outcome_typeBy r.document _ [], ← outcome_typeBy r.document _ [], hsame]
    rw [outcome_typeBy] at hnot
    refine ⟨by simp only [bind, Except.bind, hother], fun hfault => ?_⟩
    simp only [bind, Except.bind] at hfault
    cases htype : (Schema.ofJson r node).typeBy (s.answer resolve r.document) with
    | error fault =>
      rw [htype] at hnot hfault
      cases hfault
      exact hnot rfl
    | ok type =>
      rw [htype] at hfault
      cases hfault

theorem has_of_mem_met {r inner : Reference} (h : inner ∈ s.met resolve r) : s.store.Has r := by
  unfold met at h
  cases hnode : s.store.resolve r with
  | error fault =>
    rw [hnode] at h
    exact absurd h List.not_mem_nil
  | ok node => exact ⟨node, hnode⟩

/-- On a path of references that leads to another one, without a cycle, the recursion goes no deeper
than there are nodes that are not on the path. -/
theorem direct_suffices {given : Reference → Prop} (hacyclic : s.Acyclic given) {depth : Nat}
    (path : List Reference) {r : Reference} (hreached : s.Reached given r)
    (hpath : ∀ outer ∈ path, Relation.TransGen s.Meets outer r) (hnodup : path.Nodup)
    (hhas : ∀ outer ∈ path, s.store.Has outer)
    (hdepth : s.store.nodeCount < depth + path.length) (extra : Nat) :
    s.direct (depth + extra) r = s.direct depth r ∧
      s.direct depth r ≠ .error .nestingExhausted := by
  -- Each step goes to a reference met in the target, and the path is one longer.
  induction depth generalizing path r with
  | zero =>
    have hle := Store.length_le_nodeCount hnodup hhas
    omega
  | succ depth ih =>
    rw [Nat.add_right_comm, direct, direct]
    refine follow_congr fun inner hinner => ?_
    have hmeets : s.Meets r inner := ⟨depth, hinner⟩
    have hnot : r ∉ path := fun hmem => hacyclic r hreached (hpath r hmem)
    refine ih (path ++ [r]) (hreached.meets hmeets) ?_ ?_ ?_ ?_
    · exact hmeets.lead hpath
    · rw [← List.concat_eq_append]
      exact hnodup.concat hnot
    · exact List.forall_mem_append.mpr
        ⟨hhas, List.forall_mem_singleton.mpr (has_of_mem_met hinner)⟩
    · rw [List.length_append, List.length_singleton]
      omega

section Acyclic

variable {given : Reference → Prop} {r : Reference}

/-- Where no cycle is reached, the result does not depend on the depth, as long as it is larger than
the number of nodes. -/
theorem direct_eq_result (hacyclic : s.Acyclic given) (hreached : s.Reached given r) {depth : Nat}
    (hdepth : s.store.nodeCount < depth) : s.direct depth r = s.result r := by
  obtain ⟨extra, rfl⟩ := Nat.exists_eq_add_of_lt hdepth
  have hsuffices := direct_suffices hacyclic [] hreached (by simp) List.nodup_nil (by simp)
    (Nat.lt_succ_self s.store.nodeCount) extra
  rw [Nat.add_right_comm]
  exact hsuffices.1

theorem result_ne_exhausted (hacyclic : s.Acyclic given) (hreached : s.Reached given r) :
    s.result r ≠ .error .nestingExhausted :=
  (direct_suffices hacyclic [] hreached (by simp) List.nodup_nil (by simp)
    (Nat.lt_succ_self s.store.nodeCount) 0).2

/-- Where no cycle is reached, the result is that of the recursion without any bound. -/
theorem result_eq_follow (hacyclic : s.Acyclic given) (hreached : s.Reached given r) :
    s.result r = s.follow s.result r := by
  rw [← direct_eq_result hacyclic hreached (Nat.lt_succ_of_lt (Nat.lt_succ_self _))]
  rfl

end Acyclic

/-! ## Graphs that can be seen to have no cycle -/

/-- The references that are written in the target of a reference, met or not. -/
def links (s : Surroundings) (r : Reference) : List Reference :=
  match s.store.resolve r with
  | .error _ => []
  | .ok node => (Schema.ofJson r node).questions.flatMap fun q => q.references r.document

/-- A computation notes only references with a property. -/
def NotesOnly (Good : Reference → Prop) (α : Type) (x _y : Noting α) : Prop :=
  ∀ met, (∀ r ∈ met, Good r) → ∀ r ∈ Result.state (x met), Good r

theorem relates_notesOnly (Good : Reference → Prop) : Schema.Relates (NotesOnly Good) where
  pure _ _ h := h
  bind := by
    intro α β x _ f _ hfirst hsecond met hmet
    have hx := hfirst met hmet
    cases hstep : x met with
    | ok value middle =>
      rw [hstep] at hx
      rw [Run.bind_of_ok hstep]
      exact hsecond value middle hx
    | error fault middle =>
      rw [hstep] at hx
      rw [Run.bind_of_error hstep]
      exact hx

theorem Meets.mem_links {r inner : Reference} (h : s.Meets r inner) : inner ∈ s.links r := by
  obtain ⟨depth, hmet⟩ := h
  unfold met at hmet
  unfold links
  cases hnode : s.store.resolve r with
  | error fault =>
    rw [hnode] at hmet
    exact absurd hmet List.not_mem_nil
  | ok node =>
    rw [hnode] at hmet
    have hnote : ∀ q ∈ (Schema.ofJson r node).questions,
        NotesOnly (fun inner => inner ∈ (Schema.ofJson r node).questions.flatMap
          fun q => q.references r.document) TypeExpr
          (s.note (s.direct depth) r.document q) (s.note (s.direct depth) r.document q) := by
      intro q hq met hgood other hother
      rw [state_note] at hother
      rcases List.mem_append.mp hother with hold | hnew
      · exact hgood other hold
      · exact List.mem_flatMap.mpr ⟨q, hq, hnew⟩
    exact (relates_notesOnly _).typeBy _ hnote [] (fun _ h => absurd h List.not_mem_nil) inner hmet

section Ranked

variable {given : Reference → Prop} {listed : List Reference} {rank : Reference → Nat}

theorem Reached.mem_of_links {r : Reference} (hreached : s.Reached given r)
    (hgiven : ∀ r, given r → r ∈ listed)
    (hlinks : ∀ r ∈ listed, ∀ inner ∈ s.links r, inner ∈ listed ∧ rank inner < rank r) :
    r ∈ listed := by
  obtain ⟨first, hfirst, hpath⟩ := hreached
  induction hpath with
  | refl => exact hgiven first hfirst
  | tail _ hmeets ih => exact (hlinks _ ih _ hmeets.mem_links).1

/-- Where every reference that is written in a target ranks lower, no cycle is reached. -/
theorem acyclic_of_rank (hgiven : ∀ r, given r → r ∈ listed)
    (hlinks : ∀ r ∈ listed, ∀ inner ∈ s.links r, inner ∈ listed ∧ rank inner < rank r) :
    s.Acyclic given := by
  intro r hreached hcycle
  have hlower : ∀ inner, Relation.TransGen s.Meets r inner →
      inner ∈ listed ∧ rank inner < rank r := by
    intro inner hpath
    induction hpath with
    | single hmeets =>
      exact hlinks r (hreached.mem_of_links hgiven hlinks) _ hmeets.mem_links
    | tail _ hmeets ih =>
      obtain ⟨hmem, hlt⟩ := hlinks _ ih.1 _ hmeets.mem_links
      exact ⟨hmem, Nat.lt_trans hlt ih.2⟩
  exact Nat.lt_irrefl _ (hlower r hcycle).2

end Ranked

end Surroundings

end SchemaTypes
