import Mathlib.Data.List.Forall2
import Mathlib.Data.List.Perm.Subperm
import Mathlib.Data.String.Basic
import SchemaTypes.Json.Basic
import SchemaTypes.Proofs.OrderedMap

set_option autoImplicit false

/-!
# Equality of JSON values

Values are compared by what they say: numbers by value, arrays item by item, and objects member by
member, in whatever order the members stand.  Where the order is known, because the names rise or
because they are given, objects are equal only if they are so place by place.
-/

namespace SchemaTypes.Json

mutual

/-- Equality of values; the order of members does not matter. -/
def same : Json → Json → Bool
  | null, null => true
  | bool a, bool b => a == b
  | number a, number b => a.equal b
  | string a, string b => a == b
  | array as, array bs => sameItems as bs
  | object as, object bs => as.length == bs.length && foundIn as bs
  | _, _ => false

/-- Equality of lists of values. -/
def sameItems : List Json → List Json → Bool
  | [], [] => true
  | a :: as, b :: bs => same a b && sameItems as bs
  | _, _ => false

/-- Whether every member has an equal one of its name among others. -/
def foundIn : List (String × Json) → List (String × Json) → Bool
  | [], _ => true
  | (name, value) :: rest, others =>
    (match OrderedMap.get? others name with
      | some other => same value other
      | none => false) && foundIn rest others

end

/-- The names of the members of an object in an object, in their order. -/
def memberNames (value : Json) (name : String) : List String :=
  match value.member? name with
  | some (object members) => members.map Prod.fst
  | _ => []

theorem same_string (text other : String) :
    (string text).same (string other) = (text == other) := by
  rw [same]

/-! ## Objects with two members -/

section Pairs

variable {first second : String} {a b a' b' : Json}

theorem eq_and_eq_of_pair_eq
    (h : object [(first, a), (second, b)] = object [(first, a'), (second, b')]) :
    a = a' ∧ b = b' := by
  cases h
  exact ⟨rfl, rfl⟩

theorem same_pair (h : first ≠ second) :
    (object [(first, a), (second, b)]).same (object [(first, a'), (second, b')]) =
      (a.same a' && b.same b') := by
  simp [same, foundIn, OrderedMap.get?_cons, h]

end Pairs

/-! ## Members found by their names -/

section Members

variable {as bs : List (String × Json)}

theorem foundIn_cons {name : String} {value : Json} {rest others : List (String × Json)} :
    foundIn ((name, value) :: rest) others = true ↔
      (∃ other, OrderedMap.get? others name = some other ∧ same value other = true) ∧
        foundIn rest others = true := by
  rw [foundIn, Bool.and_eq_true]
  cases OrderedMap.get? others name <;> simp

/-- Members that have equal ones have their names among the others. -/
theorem names_subset_of_foundIn (h : foundIn as bs = true) :
    as.map Prod.fst ⊆ bs.map Prod.fst := by
  induction as with
  | nil => exact List.nil_subset _
  | cons a rest ih =>
    obtain ⟨⟨other, hother, -⟩, hrest⟩ := foundIn_cons.mp h
    have hname := List.mem_map_of_mem (f := Prod.fst) (OrderedMap.mem_of_get? hother)
    exact List.cons_subset.mpr ⟨hname, ih hrest⟩

/-- A member of another name may stand in front of those that are searched. -/
theorem foundIn_cons_of_not_mem {name : String} (h : name ∉ as.map Prod.fst) (value : Json) :
    foundIn as ((name, value) :: bs) = foundIn as bs := by
  induction as with
  | nil => rfl
  | cons a rest ih =>
    obtain ⟨hne, hrest⟩ := not_or.mp (mt List.mem_cons.mpr h)
    rw [foundIn, foundIn, ih hrest, OrderedMap.get?_cons, if_neg hne]

theorem foundIn_iff_forall₂ (hnames : as.map Prod.fst = bs.map Prod.fst)
    (hnodup : (as.map Prod.fst).Nodup) :
    foundIn as bs = true ↔
      List.Forall₂ (fun a b => a.1 = b.1 ∧ same a.2 b.2 = true) as bs := by
  induction as generalizing bs with
  | nil =>
    obtain rfl := List.map_eq_nil_iff.mp hnames.symm
    exact iff_of_true rfl .nil
  | cons a as ih =>
    cases bs with
    | nil => cases hnames
    | cons b bs =>
      obtain ⟨name, value⟩ := a
      obtain ⟨name', other⟩ := b
      obtain ⟨rfl, hrest⟩ : name = name' ∧ _ := List.cons.inj hnames
      obtain ⟨hnew, hnodup⟩ := List.nodup_cons.mp hnodup
      rw [foundIn_cons, foundIn_cons_of_not_mem hnew, ih hrest hnodup, List.forall₂_cons,
        OrderedMap.get?_cons, if_pos rfl]
      simp

/-- Objects with the same names in the same order are equal exactly if they are so place by
place. -/
theorem same_iff_forall₂ (hnames : as.map Prod.fst = bs.map Prod.fst)
    (hnodup : (as.map Prod.fst).Nodup) :
    (object as).same (object bs) = true ↔
      List.Forall₂ (fun a b => a.1 = b.1 ∧ a.2.same b.2 = true) as bs := by
  have hlength : as.length = bs.length := by
    simpa using congrArg List.length hnames
  rw [same, hlength, beq_self_eq_true, Bool.true_and, foundIn_iff_forall₂ hnames hnodup]

/-- Objects whose names rise are equal only if they have the same names in the same order. -/
theorem names_eq_of_same (has : (as.map Prod.fst).Pairwise (· < ·))
    (hbs : (bs.map Prod.fst).Pairwise (· < ·)) (h : (object as).same (object bs) = true) :
    as.map Prod.fst = bs.map Prod.fst := by
  rw [same, Bool.and_eq_true, beq_iff_eq] at h
  obtain ⟨hlength, hfound⟩ := h
  have hsubperm := List.Nodup.subperm (has.imp ne_of_lt) (names_subset_of_foundIn hfound)
  have hperm : (as.map Prod.fst).Perm (bs.map Prod.fst) := by
    refine hsubperm.perm_of_length_le ?_
    rw [List.length_map, List.length_map, hlength]
  exact hperm.eq_of_pairwise (fun _ _ _ _ hlt hgt => absurd hgt hlt.asymm) has hbs

end Members

/-- Lists of texts are equal only if they are the same. -/
theorem same_strings_iff (texts others : List String) :
    (array (texts.map string)).same (array (others.map string)) = true ↔ texts = others := by
  rw [same]
  induction texts generalizing others with
  | nil => cases others <;> simp [sameItems]
  | cons text rest ih =>
    cases others with
    | nil => simp [sameItems]
    | cons other more =>
      rw [List.map_cons, List.map_cons, sameItems, Bool.and_eq_true, ih, same_string, beq_iff_eq,
        List.cons.injEq]

end SchemaTypes.Json
