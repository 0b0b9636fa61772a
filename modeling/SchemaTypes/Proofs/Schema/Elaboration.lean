import SchemaTypes.Proofs.Run
import SchemaTypes.Proofs.Schema.Plain
import SchemaTypes.Resolve

set_option autoImplicit false

/-!
# Elaborating schemas

Elaborating a schema resolves the references in it, in order, and puts the types together.  What
holds of every resolution therefore holds of the elaboration.  Three forms of this are proved, each
by one recursion over schemas: for relations between sessions, whatever the outcome; for giving the
same type again later; and for what is known of the types that come out.
-/

namespace SchemaTypes.Schema

variable {R : Session → Session → Prop} {resolve again : Reference → Run TypeExpr}

theorem readReference_after (target : String) (session : Session) :
    (readReference target).after session = session := by
  unfold Run.after readReference
  cases session.reference target <;> rfl

/-- A written reference is read, where it can be read, without changing the session. -/
theorem readReference_ok {target : String} {session final : Session} {r : Reference}
    (h : readReference target session = .ok r final) :
    session.reference target = .ok r ∧ final = session := by
  unfold readReference at h
  cases hr : session.reference target with
  | ok other =>
    rw [hr] at h
    cases h
    exact ⟨rfl, rfl⟩
  | error fault =>
    rw [hr] at h
    cases h

theorem readReference_error {target : String} {session final : Session} {fault : Fault}
    (h : readReference target session = .error fault final) :
    session.reference target = .error fault := by
  unfold readReference at h
  split at h
  · cases h
  · rename_i hr
    cases h
    exact hr

theorem readReference_of_ok {target : String} {session : Session} {r : Reference}
    (h : session.reference target = .ok r) :
    readReference target session = .ok r session := by
  unfold readReference
  rw [h]

theorem readReference_of_error {target : String} {session : Session} {fault : Fault}
    (h : session.reference target = .error fault) :
    readReference target session = .error fault session := by
  unfold readReference
  rw [h]

/-- A string of a format is any string, or a provided type that needs a helper. -/
theorem textType_ok {format : Option String} {session final : Session} {type : TypeExpr}
    (h : textType format session = .ok type final) :
    (type = .string ∧ final = session) ∨
    ∃ display backing path, type = .provided display backing ∧
      final = { session with registry := session.registry.recordHelper path backing } := by
  unfold textType at h
  cases format with
  | none =>
    cases h
    exact Or.inl ⟨rfl, rfl⟩
  | some format =>
    cases htemporal : session.config.isTemporal format with
    | true =>
      simp only [htemporal, if_true] at h
      cases h
      exact Or.inr ⟨_, _, _, rfl, rfl⟩
    | false =>
      simp only [htemporal, Bool.false_eq_true, if_false] at h
      cases h
      exact Or.inl ⟨rfl, rfl⟩

/-! ## Relations between sessions -/

/-- What has to be shown of the parts of elaborations in order to know that these obey `R`. -/
structure Obeys (R : Session → Session → Prop) (resolve : Reference → Run TypeExpr) : Prop where
  refl : ∀ session, R session session
  trans : ∀ ⦃a b c⦄, R a b → R b c → R a c
  text : ∀ format, (textType format).Obeys R
  resolved : ∀ r, (resolve r).Obeys R

mutual

/-- An elaboration obeys what the resolutions in it obey. -/
theorem Obeys.elaborate (rules : Obeys R resolve) : ∀ schema : Schema,
    (schema.elaborate resolve).Obeys R
  | malformed _ _ => Run.Obeys.throw rules.refl _
  | reference target => by
    refine Run.Obeys.bind rules.trans (fun session => ?_) rules.resolved
    rw [readReference_after]
    exact rules.refl session
  | allOf members =>
    (rules.elaborateAll members).bind rules.trans fun _ => Run.Obeys.pure rules.refl _
  | anyOf members =>
    (rules.elaborateAll members).bind rules.trans fun _ => Run.Obeys.pure rules.refl _
  | nullable schema =>
    (rules.elaborate schema).bind rules.trans fun _ => Run.Obeys.pure rules.refl _
  | exactly _ => Run.Obeys.pure rules.refl _
  | Schema.text format => rules.text format
  | array items =>
    (rules.elaborate items).bind rules.trans fun _ => Run.Obeys.pure rules.refl _
  | tuple items =>
    (rules.elaborateAll items).bind rules.trans fun _ => Run.Obeys.pure rules.refl _
  | dictionary values =>
    (rules.elaborate values).bind rules.trans fun _ => Run.Obeys.pure rules.refl _
  | record fields => by
    rw [Schema.elaborate]
    exact (rules.elaborateFields fields).bind rules.trans fun _ => Run.Obeys.pure rules.refl _

theorem Obeys.elaborateAll (rules : Obeys R resolve) : ∀ schemas : List Schema,
    (Schema.elaborateAll resolve schemas).Obeys R
  | [] => Run.Obeys.pure rules.refl _
  | schema :: rest =>
    (rules.elaborate schema).bind rules.trans fun _ =>
      (rules.elaborateAll rest).bind rules.trans fun _ => Run.Obeys.pure rules.refl _

theorem Obeys.elaborateFields (rules : Obeys R resolve) :
    ∀ fields : List (FieldLabel × Schema), (Schema.elaborateFields resolve fields).Obeys R
  | [] => Run.Obeys.pure rules.refl _
  | (_, schema) :: rest =>
    (rules.elaborate schema).bind rules.trans fun _ =>
      (rules.elaborateFields rest).bind rules.trans fun _ => Run.Obeys.pure rules.refl _

end

/-! ## Giving the same type again -/

/-- What has to be shown of the parts of elaborations in order to know that types are given again:
`again` answers in every later session what `resolve` answered once. -/
structure SettledBy (R : Session → Session → Prop) (resolve again : Reference → Run TypeExpr) :
    Prop where
  refl : ∀ session, R session session
  trans : ∀ ⦃a b c⦄, R a b → R b c → R a c
  read : ∀ target, (readReference target).SettledBy R (readReference target)
  text : ∀ format, (textType format).SettledBy R (textType format)
  resolved : ∀ r, (resolve r).SettledBy R (again r)

mutual

/-- If every resolved reference is given again, so is the type of the schema. -/
theorem SettledBy.elaborate (rules : SettledBy R resolve again) : ∀ schema : Schema,
    (schema.elaborate resolve).SettledBy R (schema.elaborate again)
  | malformed _ _ => fun _ _ _ h => by cases h
  | reference target => (rules.read target).bind rules.trans rules.resolved
  | allOf members =>
    (rules.elaborateAll members).bind rules.trans fun _ => Run.SettledBy.pure rules.refl _
  | anyOf members =>
    (rules.elaborateAll members).bind rules.trans fun _ => Run.SettledBy.pure rules.refl _
  | nullable schema =>
    (rules.elaborate schema).bind rules.trans fun _ => Run.SettledBy.pure rules.refl _
  | exactly _ => Run.SettledBy.pure rules.refl _
  | Schema.text format => rules.text format
  | array items =>
    (rules.elaborate items).bind rules.trans fun _ => Run.SettledBy.pure rules.refl _
  | tuple items =>
    (rules.elaborateAll items).bind rules.trans fun _ => Run.SettledBy.pure rules.refl _
  | dictionary values =>
    (rules.elaborate values).bind rules.trans fun _ => Run.SettledBy.pure rules.refl _
  | record fields => by
    rw [Schema.elaborate, Schema.elaborate]
    exact (rules.elaborateFields fields).bind rules.trans fun _ =>
      Run.SettledBy.pure rules.refl _

theorem SettledBy.elaborateAll (rules : SettledBy R resolve again) : ∀ schemas : List Schema,
    (Schema.elaborateAll resolve schemas).SettledBy R (Schema.elaborateAll again schemas)
  | [] => Run.SettledBy.pure rules.refl _
  | schema :: rest =>
    (rules.elaborate schema).bind rules.trans fun _ =>
      (rules.elaborateAll rest).bind rules.trans fun _ => Run.SettledBy.pure rules.refl _

theorem SettledBy.elaborateFields (rules : SettledBy R resolve again) :
    ∀ fields : List (FieldLabel × Schema),
      (Schema.elaborateFields resolve fields).SettledBy R (Schema.elaborateFields again fields)
  | [] => Run.SettledBy.pure rules.refl _
  | (_, schema) :: rest =>
    (rules.elaborate schema).bind rules.trans fun _ =>
      (rules.elaborateFields rest).bind rules.trans fun _ => Run.SettledBy.pure rules.refl _

end

/-! ## The types that come out -/

/-- What has to be shown of the parts of elaborations in order to know `P` of every type that comes
out: `P session type final` speaks of a type and of the sessions before and after, `Ps` of the types
of a list in the same way. -/
structure Yields (resolve : Reference → Run TypeExpr)
    (P : Session → TypeExpr → Session → Prop) (Ps : Session → List TypeExpr → Session → Prop) :
    Prop where
  nil : ∀ session, Ps session [] session
  cons : ∀ {session middle final type types},
    P session type middle → Ps middle types final → Ps session (type :: types) final
  combines : ∀ {session final type types},
    Ps session types final → TypeExpr.Combines types type → P session type final
  constant : ∀ {session type}, TypeExpr.Constant type → P session type session
  text : ∀ {format session type final},
    textType format session = .ok type final → P session type final
  resolved : ∀ {r session type final}, resolve r session = .ok type final → P session type final

section Yields

variable {P : Session → TypeExpr → Session → Prop} {Ps : Session → List TypeExpr → Session → Prop}

/-- One type alone, as a list. -/
theorem Yields.single (rules : Yields resolve P Ps) {session final : Session} {type : TypeExpr}
    (h : P session type final) : Ps session [type] final := rules.cons h (rules.nil final)

mutual

/-- What holds of the parts holds of the type of a plain schema. -/
theorem Yields.elaborate (rules : Yields resolve P Ps) : ∀ schema : Schema, schema.Plain →
    ∀ session type final, schema.elaborate resolve session = .ok type final →
      P session type final
  | malformed _ _, _, _, _, _, h => by cases h
  | Schema.reference target, _, session, type, final, h => by
    obtain ⟨r, middle, hread, hresolve⟩ := Run.bind_ok h
    obtain ⟨-, rfl⟩ := readReference_ok hread
    exact rules.resolved hresolve
  | allOf members, hplain, session, type, final, h => by
    obtain ⟨types, middle, hmembers, hpure⟩ := Run.bind_ok h
    obtain ⟨rfl, rfl⟩ := Run.pure_ok hpure
    exact rules.combines (rules.elaborateAll members hplain _ _ _ hmembers) (.intersection types)
  | anyOf members, hplain, session, type, final, h => by
    obtain ⟨types, middle, hmembers, hpure⟩ := Run.bind_ok h
    obtain ⟨rfl, rfl⟩ := Run.pure_ok hpure
    exact rules.combines (rules.elaborateAll members hplain _ _ _ hmembers) (.union types)
  | nullable schema, hplain, session, type, final, h => by
    obtain ⟨inner, middle, hschema, hpure⟩ := Run.bind_ok h
    obtain ⟨rfl, rfl⟩ := Run.pure_ok hpure
    have hinner := rules.elaborate schema hplain _ _ _ hschema
    exact rules.combines (rules.cons hinner (rules.single (rules.constant .null))) (.union _)
  | exactly _, hplain, session, type, final, h => by
    obtain ⟨rfl, rfl⟩ := Run.pure_ok h
    exact rules.constant hplain
  | Schema.text format, _, session, type, final, h => rules.text h
  | array items, hplain, session, type, final, h => by
    obtain ⟨inner, middle, hitems, hpure⟩ := Run.bind_ok h
    obtain ⟨rfl, rfl⟩ := Run.pure_ok hpure
    exact rules.combines (rules.single (rules.elaborate items hplain _ _ _ hitems)) (.array inner)
  | tuple items, hplain, session, type, final, h => by
    obtain ⟨types, middle, hitems, hpure⟩ := Run.bind_ok h
    obtain ⟨rfl, rfl⟩ := Run.pure_ok hpure
    exact rules.combines (rules.elaborateAll items hplain _ _ _ hitems) (.tuple types)
  | dictionary values, hplain, session, type, final, h => by
    obtain ⟨inner, middle, hvalues, hpure⟩ := Run.bind_ok h
    obtain ⟨rfl, rfl⟩ := Run.pure_ok hpure
    exact rules.combines (rules.single (rules.elaborate values hplain _ _ _ hvalues))
      (.dictionary inner)
  | record fields, hplain, session, type, final, h => by
    rw [Schema.elaborate] at h
    obtain ⟨types, middle, hfields, hpure⟩ := Run.bind_ok h
    obtain ⟨rfl, rfl⟩ := Run.pure_ok hpure
    exact rules.combines (rules.elaborateFields fields hplain _ _ _ hfields) (.record types)

theorem Yields.elaborateAll (rules : Yields resolve P Ps) : ∀ schemas : List Schema,
    PlainAll schemas → ∀ session types final,
      Schema.elaborateAll resolve schemas session = .ok types final → Ps session types final
  | [], _, session, types, final, h => by
    obtain ⟨rfl, rfl⟩ := Run.pure_ok h
    exact rules.nil _
  | schema :: rest, hplain, session, types, final, h => by
    obtain ⟨type, middle, hschema, h⟩ := Run.bind_ok h
    obtain ⟨others, last, hrest, hpure⟩ := Run.bind_ok h
    obtain ⟨rfl, rfl⟩ := Run.pure_ok hpure
    exact rules.cons (rules.elaborate schema hplain.1 _ _ _ hschema)
      (rules.elaborateAll rest hplain.2 _ _ _ hrest)

theorem Yields.elaborateFields (rules : Yields resolve P Ps) :
    ∀ fields : List (FieldLabel × Schema), PlainFields fields → ∀ session types final,
      Schema.elaborateFields resolve fields session = .ok types final →
        Ps session (types.map Prod.snd) final
  | [], _, session, types, final, h => by
    obtain ⟨rfl, rfl⟩ := Run.pure_ok h
    exact rules.nil _
  | (label, schema) :: rest, hplain, session, types, final, h => by
    obtain ⟨type, middle, hschema, h⟩ := Run.bind_ok h
    obtain ⟨others, last, hrest, hpure⟩ := Run.bind_ok h
    obtain ⟨rfl, rfl⟩ := Run.pure_ok hpure
    exact rules.cons (rules.elaborate schema hplain.1 _ _ _ hschema)
      (rules.elaborateFields rest hplain.2 _ _ _ hrest)

end

end Yields

end SchemaTypes.Schema
