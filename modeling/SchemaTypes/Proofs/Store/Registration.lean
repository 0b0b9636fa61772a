import SchemaTypes.Proofs.Registry.Helpers
import SchemaTypes.Proofs.Store.Keys

set_option autoImplicit false

/-!
# Registering documents

Documents are registered one after the other, as values or as texts.  Some attempts fail: a text
need not parse, an id need not name a document, and the key that it stands for may be taken.  In
whatever order they are made, a key belongs to the first attempt that offers a document for it.
-/

namespace SchemaTypes.Store

/-- An attempt to register a document under an id. -/
inductive Registration where
  | value (id : String) (document : Json)
  | json (id text : String)
  | yaml (id text : String)

namespace Registration

/-- The id, as it is spelled. -/
def id : Registration → String
  | value id _ => id
  | json id _ => id
  | yaml id _ => id

/-- The document, if its text parses. -/
def document? : Registration → Option Json
  | value _ document => some document
  | json _ text => Json.readDocument? text
  | yaml _ text => Json.ofYaml? text

/-- The document that is offered for a key: the one to register, if the key is what the id stands
for. -/
def offer? (call : Registration) (key : String) : Option Json :=
  if DocumentId.canonical? call.id = some key then call.document? else none

/-- Makes an attempt.  Gives the key and the new store. -/
def perform : Registration → Store → Except Fault (String × Store)
  | value id document, store => store.insert id document
  | json id text, store => store.insertJson id text
  | yaml id text, store => store.insertYaml id text

/-- What the caller is told: the key, or why there is none. -/
def outcome (call : Registration) (store : Store) : Except Fault String :=
  (call.perform store).map Prod.fst

/-- The store that an attempt leaves behind: the old one, unless there is a new one. -/
def after (call : Registration) (store : Store) : Store :=
  match call.perform store with
  | .ok (_, next) => next
  | .error _ => store

/-- The store that a list of attempts leaves behind. -/
def afterAll (calls : List Registration) (store : Store) : Store :=
  calls.foldl (fun store call => call.after store) store

variable {call : Registration} {store : Store} {key : String} {document : Json}

/-! ## One attempt -/

theorem offer?_eq_some_iff :
    call.offer? key = some document ↔
      DocumentId.canonical? call.id = some key ∧ call.document? = some document := by
  unfold offer?
  split
  · rename_i hkey
    exact (and_iff_right hkey).symm
  · rename_i hkey
    exact ⟨nofun, fun h => absurd h.1 hkey⟩

/-- However a document is given, once it is there it is registered as a value is. -/
theorem perform_of_document? (h : call.document? = some document) (store : Store) :
    call.perform store = store.insert call.id document := by
  cases call with
  | value id value =>
    cases h
    rfl
  | json id text =>
    change store.insertJson id text = _
    rw [insertJson, show Json.readDocument? text = some document from h]
    rfl
  | yaml id text =>
    change store.insertYaml id text = _
    rw [insertYaml, show Json.ofYaml? text = some document from h]
    rfl

/-- A document is turned away from a key that is taken, and takes a key that is not. -/
theorem perform_of_offer? (h : call.offer? key = some document) (store : Store) :
    call.perform store =
      if store.contains key then .error (.duplicateDocument key)
      else .ok (key, ⟨place key document store.documents⟩) := by
  obtain ⟨hkey, hdocument⟩ := offer?_eq_some_iff.mp h
  rw [perform_of_document? hdocument, insert, hkey]

/-- Where nothing is offered, an attempt fails on its text or its id. -/
theorem perform_of_not_offer? (h : ∀ key, call.offer? key = none) (store : Store) :
    ∃ message, call.perform store = .error (.general message) := by
  cases hdocument : call.document? with
  | some document =>
    rw [perform_of_document? hdocument, insert]
    cases hkey : DocumentId.canonical? call.id with
    | none => exact ⟨_, rfl⟩
    | some key =>
      have hoffer := offer?_eq_some_iff.mpr ⟨hkey, hdocument⟩
      rw [h key] at hoffer
      cases hoffer
  | none =>
    cases call with
    | value id value => cases hdocument
    | json id text =>
      change ∃ message, store.insertJson id text = _
      rw [insertJson, show Json.readDocument? text = none from hdocument]
      exact ⟨_, rfl⟩
    | yaml id text =>
      change ∃ message, store.insertYaml id text = _
      rw [insertYaml, show Json.ofYaml? text = none from hdocument]
      exact ⟨_, rfl⟩

/-- A document is offered for one key only. -/
theorem offer?_of_ne (h : call.offer? key = some document) {other : String} (hne : key ≠ other) :
    call.offer? other = none := by
  refine Option.eq_none_iff_forall_ne_some.mpr fun second hsecond => hne ?_
  have hkeys := (offer?_eq_some_iff.mp h).1.symm.trans (offer?_eq_some_iff.mp hsecond).1
  exact Option.some.inj hkeys

variable (call) in
/-- An attempt offers a document for one key, or none at all. -/
theorem offers_or_not :
    (∃ key document, call.offer? key = some document) ∨ ∀ key, call.offer? key = none := by
  refine or_iff_not_imp_left.mpr fun hnot key => Option.eq_none_iff_forall_ne_some.mpr ?_
  intro document hoffer
  exact hnot ⟨key, document, hoffer⟩

theorem outcome_of_offer? (h : call.offer? key = some document) (store : Store) :
    call.outcome store =
      if store.contains key then .error (.duplicateDocument key) else .ok key := by
  rw [outcome, perform_of_offer? h]
  split <;> rfl

/-- An attempt only stores, or is turned away from, a key that it offers a document for. -/
theorem exists_offer?_of_outcome
    (h : call.outcome store = .ok key ∨ call.outcome store = .error (.duplicateDocument key)) :
    ∃ document, call.offer? key = some document := by
  rcases offers_or_not call with ⟨own, document, hoffer⟩ | hnone
  · refine ⟨document, ?_⟩
    rw [outcome_of_offer? hoffer] at h
    split at h
    · rcases h with h | h
      · cases h
      · cases h
        exact hoffer
    · rcases h with h | h
      · cases h
        exact hoffer
      · cases h
  · obtain ⟨message, hperform⟩ := perform_of_not_offer? hnone store
    rw [outcome, hperform] at h
    rcases h with h | h <;> cases h

/-- An attempt succeeds exactly if it offers a document for a key that is not taken. -/
theorem outcome_eq_ok_iff :
    call.outcome store = .ok key ↔ call.offer? key ≠ none ∧ ¬ store.contains key = true := by
  constructor
  · intro h
    obtain ⟨document, hoffer⟩ := exists_offer?_of_outcome (Or.inl h)
    rw [outcome_of_offer? hoffer] at h
    split at h
    · cases h
    · rename_i hfree
      exact ⟨hoffer ▸ Option.some_ne_none document, hfree⟩
  · rintro ⟨hoffers, hfree⟩
    obtain ⟨document, hoffer⟩ := Option.ne_none_iff_exists'.mp hoffers
    rw [outcome_of_offer? hoffer, if_neg hfree]

/-- An attempt is turned away from a key exactly if it offers a document for it and it is taken. -/
theorem outcome_eq_duplicate_iff :
    call.outcome store = .error (.duplicateDocument key) ↔
      call.offer? key ≠ none ∧ store.contains key = true := by
  constructor
  · intro h
    obtain ⟨document, hoffer⟩ := exists_offer?_of_outcome (Or.inr h)
    rw [outcome_of_offer? hoffer] at h
    split at h
    · rename_i htaken
      exact ⟨hoffer ▸ Option.some_ne_none document, htaken⟩
    · cases h
  · rintro ⟨hoffers, htaken⟩
    obtain ⟨document, hoffer⟩ := Option.ne_none_iff_exists'.mp hoffers
    rw [outcome_of_offer? hoffer, if_pos htaken]

/-- An attempt that fails leaves the store as it was. -/
theorem after_of_outcome {fault : Fault} (h : call.outcome store = .error fault) :
    call.after store = store := by
  unfold outcome at h
  unfold after
  split
  · rename_i hperform
    rw [hperform] at h
    cases h
  · rfl

variable (call store) in
/-- After an attempt, a key has the document that it had, or else the one that was offered. -/
theorem get?_after (key : String) :
    (call.after store).get? key = (store.get? key).or (call.offer? key) := by
  rcases offers_or_not call with ⟨own, document, hoffer⟩ | hnone
  · rw [after, perform_of_offer? hoffer]
    by_cases htaken : store.contains own = true
    · rw [if_pos htaken]
      by_cases hkey : own = key
      · subst hkey
        obtain ⟨old, hold⟩ := Option.isSome_iff_exists.mp htaken
        rw [hold, Option.some_or]
      · rw [offer?_of_ne hoffer hkey, Option.or_none]
    · rw [if_neg htaken]
      have hfree : store.get? own = none := Option.not_isSome_iff_eq_none.mp htaken
      change OrderedMap.get? (place own document store.documents) key = _
      rw [get?_place hfree]
      split
      · rename_i hkey
        rw [← hkey, hfree, hoffer, Option.none_or]
      · rename_i hkey
        rw [offer?_of_ne hoffer hkey, Option.or_none]
        rfl
  · obtain ⟨message, hperform⟩ := perform_of_not_offer? hnone store
    rw [after, hperform, hnone, Option.or_none]

end Registration

/-! ## The ids -/

/-- A new id takes its place among the ids as the path of a helper does. -/
theorem keys_place {key : String} {documents : List (String × Json)}
    (h : OrderedMap.get? documents key = none) (document : Json) :
    (place key document documents).map Prod.fst =
      Registry.addSorted key (documents.map Prod.fst) := by
  induction documents with
  | nil => rfl
  | cons entry rest ih =>
    obtain ⟨first, value⟩ := entry
    rw [OrderedMap.get?_cons] at h
    split at h
    · cases h
    · rename_i hne
      rw [place, List.map_cons, Registry.addSorted, if_neg (Ne.symm hne)]
      split
      · rfl
      · rw [List.map_cons, ih h]

theorem mem_ids_iff {store : Store} {key : String} : key ∈ store.ids ↔ store.get? key ≠ none :=
  (not_iff_comm.mp (OrderedMap.get?_eq_none_iff store.documents key).symm).symm

namespace Registration

variable {call : Registration} {store : Store} {key : String} {document : Json}

/-- The ids keep rising. -/
theorem rising_after (h : store.ids.Pairwise (· < ·)) (call : Registration) :
    (call.after store).ids.Pairwise (· < ·) := by
  rcases offers_or_not call with ⟨own, document, hoffer⟩ | hnone
  · rw [after, perform_of_offer? hoffer]
    by_cases htaken : store.contains own = true
    · rw [if_pos htaken]
      exact h
    · rw [if_neg htaken]
      have hfree : store.get? own = none := Option.not_isSome_iff_eq_none.mp htaken
      change ((place own document store.documents).map Prod.fst).Pairwise (· < ·)
      rw [keys_place hfree]
      exact Registry.pairwise_addSorted h own
  · obtain ⟨message, hperform⟩ := perform_of_not_offer? hnone store
    rw [after, hperform]
    exact h

/-! ## Attempts one after the other -/

/-- After all attempts, a key has the document that it had, or else the first one offered. -/
theorem get?_afterAll (calls : List Registration) (store : Store) (key : String) :
    (afterAll calls store).get? key =
      (store.get? key).or (calls.findSome? fun call => call.offer? key) := by
  induction calls generalizing store with
  | nil => exact Option.or_none.symm
  | cons call rest ih =>
    change (afterAll rest (call.after store)).get? key = _
    rw [ih, get?_after, List.findSome?_cons, Option.or_assoc]
    cases call.offer? key <;> rfl

theorem rising_afterAll (calls : List Registration) (h : store.ids.Pairwise (· < ·)) :
    (afterAll calls store).ids.Pairwise (· < ·) := by
  induction calls generalizing store with
  | nil => exact h
  | cons call rest ih => exact ih (rising_after h call)

/-- A key is taken after an attempt exactly if it was before, or the attempt has stored it. -/
theorem contains_after_iff :
    (call.after store).contains key = true ↔
      store.contains key = true ∨ call.outcome store = .ok key := by
  have hcontains (store : Store) : store.contains key = true ↔ store.get? key ≠ none :=
    Option.isSome_iff_ne_none
  rw [outcome_eq_ok_iff, hcontains, hcontains, get?_after, ne_eq, Option.or_eq_none_iff, not_and_or]
  tauto

/-- A key is taken after all attempts exactly if it was before, or one of them has stored it. -/
theorem contains_afterAll_iff (calls : List Registration) (store : Store) (key : String) :
    (afterAll calls store).contains key = true ↔
      store.contains key = true ∨ ∃ earlier call later, calls = earlier ++ call :: later ∧
        call.outcome (afterAll earlier store) = .ok key := by
  induction calls generalizing store with
  | nil => simp [afterAll]
  | cons first rest ih =>
    change (afterAll rest (first.after store)).contains key = true ↔ _
    rw [ih, contains_after_iff, or_assoc]
    refine or_congr_right ⟨?_, ?_⟩
    · rintro (hfirst | ⟨earlier, call, later, rfl, hcall⟩)
      · exact ⟨[], first, rest, rfl, hfirst⟩
      · exact ⟨first :: earlier, call, later, rfl, hcall⟩
    · rintro ⟨earlier, call, later, hcalls, hcall⟩
      cases earlier with
      | nil =>
        cases hcalls
        exact Or.inl hcall
      | cons other between =>
        cases hcalls
        exact Or.inr ⟨between, call, later, rfl, hcall⟩

/-- Whatever attempts are made on the empty store, every key belongs to the first one that offered
a document for it, the ids are these keys and rise, and an attempt is turned away from a key exactly
if it offers a document for a key that an earlier one has stored.  No failure changes the store. -/
theorem first_registration_wins (calls : List Registration) :
    (∀ key document, (afterAll calls empty).get? key = some document ↔
      ∃ earlier call later, calls = earlier ++ call :: later ∧
        call.offer? key = some document ∧ ∀ other ∈ earlier, other.offer? key = none) ∧
    (∀ key, (afterAll calls empty).get? key = none ↔ ∀ call ∈ calls, call.offer? key = none) ∧
    (afterAll calls empty).ids.Pairwise (· < ·) ∧
    (∀ key, key ∈ (afterAll calls empty).ids ↔ ∃ call ∈ calls, call.offer? key ≠ none) ∧
    (∀ (call : Registration) (key : String),
      call.outcome (afterAll calls empty) = .error (.duplicateDocument key) ↔
        call.offer? key ≠ none ∧ ∃ earlier other later, calls = earlier ++ other :: later ∧
          other.outcome (afterAll earlier empty) = .ok key) ∧
    (∀ (call : Registration) (fault : Fault),
      call.outcome (afterAll calls empty) = .error fault →
        call.after (afterAll calls empty) = afterAll calls empty) := by
  have hget (key : String) : (afterAll calls empty).get? key =
      calls.findSome? fun call => call.offer? key := by
    rw [get?_afterAll]
    exact Option.none_or
  have hnone (key : String) : (afterAll calls empty).get? key = none ↔
      ∀ call ∈ calls, call.offer? key = none := by
    rw [hget, List.findSome?_eq_none_iff]
  refine ⟨fun key document => ?_, hnone, rising_afterAll calls List.Pairwise.nil, fun key => ?_,
    fun call key => ?_, fun call fault => after_of_outcome⟩
  · rw [hget, List.findSome?_eq_some_iff]
  · rw [mem_ids_iff, ne_eq, hnone]
    simp only [not_forall, exists_prop, ne_eq]
  · rw [outcome_eq_duplicate_iff, contains_afterAll_iff]
    exact and_congr_right' (or_iff_right nofun)

/-- A text that does not parse leaves its key to another spelling, which then keeps it. -/
theorem first_registration_wins_respelled :
    (afterAll [.json "a.json" "[", .value "./a.json" .null, .json "a.json" "7"] empty).get?
        "a.json" = some .null ∧
      outcome (.json "a.json" "7") (afterAll [.json "a.json" "[", .value "./a.json" .null] empty) =
        .error (.duplicateDocument "a.json") := by
  have hplain : DocumentId.canonical? "a.json" = some "a.json" := by decide +kernel
  have hdotted : DocumentId.canonical? "./a.json" = some "a.json" := by decide +kernel
  have hbroken : offer? (.json "a.json" "[") "a.json" = none :=
    (if_pos hplain).trans (Option.isNone_iff_eq_none.mp (by decide +kernel))
  have hvalue : offer? (.value "./a.json" .null) "a.json" = some .null := if_pos hdotted
  have hlast : offer? (.json "a.json" "7") "a.json" ≠ none := by
    have hoffer : offer? (.json "a.json" "7") "a.json" = Json.readDocument? "7" := if_pos hplain
    rw [hoffer, ← Option.isSome_iff_ne_none]
    decide +kernel
  constructor
  · refine ((first_registration_wins _).1 _ _).mpr ⟨[_], _, [_], rfl, hvalue, ?_⟩
    rintro other (- | ⟨-, ⟨⟩⟩)
    exact hbroken
  · refine ((first_registration_wins _).2.2.2.2.1 _ _).mpr ⟨hlast, [_], _, [], rfl, ?_⟩
    refine outcome_eq_ok_iff.mpr ⟨hvalue ▸ Option.some_ne_none _, ?_⟩
    rw [contains, get?_afterAll, List.findSome?_cons, hbroken]
    exact Bool.false_ne_true

end Registration

end SchemaTypes.Store
