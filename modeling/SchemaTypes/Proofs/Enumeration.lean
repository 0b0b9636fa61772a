set_option autoImplicit false

/-!
# Enumerations

A traversal of nested lists comes to every place once and in order.  A place has an address, the
positions that lead to it level by level, and addresses are compared from the outermost level on.  A
list enumerates what is asked for at addresses if its items are exactly that, each for one address,
and the addresses rise.
-/

namespace SchemaTypes

/-- A position on every level, the outermost first. -/
abbrev Address := List Nat

namespace Address

/-- The order in which addresses are come to. -/
def Before : Address → Address → Prop := List.Lex (· < ·)

theorem Before.asymm {a b : Address} (h : a.Before b) : ¬ b.Before a := List.lt_asymm h

/-- Two addresses that begin alike are compared by what follows. -/
theorem Before.below {a b : Address} (h : a.Before b) (outer : Address) :
    (outer ++ a).Before (outer ++ b) := by
  induction outer with
  | nil => exact h
  | cons place rest ih => exact .cons ih

/-- Of two addresses of one length, what follows does not matter. -/
theorem Before.append {a b : Address} (h : a.Before b) (hlength : a.length = b.length)
    (below other : Address) : (a ++ below).Before (b ++ other) := by
  unfold Before at *
  induction h with
  | nil => cases hlength
  | rel hlt => exact .rel hlt
  | cons _ ih => exact .cons (ih (Nat.succ.inj hlength))

end Address

/-- The items are exactly what is asked for, each for one address, in the order of the addresses. -/
def Enumerates {α : Type} (Asks : Address → α → Prop) (items : List α) : Prop :=
  ∃ log : List (Address × α), log.map Prod.snd = items ∧
    log.Pairwise (fun entry later => entry.1.Before later.1) ∧
    ∀ address item, (address, item) ∈ log ↔ Asks address item

namespace Enumerates

variable {α β : Type} {Asks : Address → α → Prop} {items : List α}

theorem congr (h : Enumerates Asks items) {Asks' : Address → α → Prop}
    (hasks : ∀ address item, Asks address item ↔ Asks' address item) :
    Enumerates Asks' items := by
  obtain ⟨log, hitems, hrises, hmem⟩ := h
  exact ⟨log, hitems, hrises, fun address item => (hmem address item).trans (hasks address item)⟩

/-- Every item is asked for somewhere. -/
theorem exists_address (h : Enumerates Asks items) {item : α} (hmem : item ∈ items) :
    ∃ address, Asks address item := by
  obtain ⟨log, rfl, -, hasks⟩ := h
  obtain ⟨⟨address, _⟩, hentry, rfl⟩ := List.mem_map.mp hmem
  exact ⟨address, (hasks _ _).mp hentry⟩

theorem nil (h : ∀ address item, ¬ Asks address item) : Enumerates Asks [] :=
  ⟨[], rfl, .nil, fun address item => iff_of_false List.not_mem_nil (h address item)⟩

/-- A list enumerates its own items. -/
theorem self (items : List α) :
    Enumerates (fun address item => ∃ place, address = [place] ∧ items[place]? = some item)
      items := by
  refine ⟨items.zipIdx.map fun entry => ([entry.2], entry.1), ?_, ?_, ?_⟩
  · rw [List.map_map]
    exact List.zipIdx_map_fst 0 items
  · rw [List.pairwise_map]
    have hplaces : (items.zipIdx.map Prod.snd).Pairwise (· < ·) := by
      rw [List.zipIdx_map_snd]
      exact List.pairwise_lt_range'
    exact (List.pairwise_map.mp hplaces).imp fun hlt => .rel hlt
  · intro address item
    constructor
    · intro hmem
      obtain ⟨entry, hentry, heq⟩ := List.mem_map.mp hmem
      cases heq
      exact ⟨entry.2, rfl, List.mem_zipIdx_iff_getElem?.mp hentry⟩
    · rintro ⟨place, rfl, hitem⟩
      exact List.mem_map.mpr ⟨(item, place), List.mem_zipIdx_iff_getElem?.mpr hitem, rfl⟩

/-- An option has one place, and needs no position for it. -/
theorem option (found : Option α) :
    Enumerates (fun address item => address = [] ∧ found = some item) found.toList := by
  cases found with
  | none =>
    apply nil
    rintro address item ⟨-, hnone⟩
    cases hnone
  | some item =>
    refine ⟨[([], item)], rfl, List.pairwise_singleton _ _, ?_⟩
    intro address other
    simp [eq_comm]

/-- What is read off some of the items stands where they do. -/
theorem filterMap (h : Enumerates Asks items) (read : α → Option β) :
    Enumerates (fun address result => ∃ item, Asks address item ∧ read item = some result)
      (items.filterMap read) := by
  obtain ⟨log, rfl, hrises, hmem⟩ := h
  refine ⟨log.filterMap fun entry => (read entry.2).map (entry.1, ·), ?_, ?_, ?_⟩
  · rw [List.map_filterMap, List.filterMap_map]
    refine congrArg (List.filterMap · log) (funext fun entry => ?_)
    simp [Function.comp_def]
  · refine List.Pairwise.filterMap _ ?_ hrises
    intro entry later hbefore first hfirst second hsecond
    obtain ⟨_, -, rfl⟩ := Option.map_eq_some_iff.mp hfirst
    obtain ⟨_, -, rfl⟩ := Option.map_eq_some_iff.mp hsecond
    exact hbefore
  · intro address result
    rw [List.mem_filterMap]
    constructor
    · rintro ⟨entry, hentry, hread⟩
      obtain ⟨found, hfound, heq⟩ := Option.map_eq_some_iff.mp hread
      cases heq
      exact ⟨entry.2, (hmem _ _).mp hentry, hfound⟩
    · rintro ⟨item, hasks, hread⟩
      refine ⟨(address, item), (hmem _ _).mpr hasks, ?_⟩
      rw [hread]
      rfl

theorem map (h : Enumerates Asks items) (f : α → β) :
    Enumerates (fun address result => ∃ item, Asks address item ∧ f item = result)
      (items.map f) := by
  rw [← List.filterMap_eq_map]
  apply (h.filterMap (some ∘ f)).congr
  intro address result
  simp

/-- One list after another, all addresses of which come later. -/
theorem append {others : List α} {Asks' : Address → α → Prop} (first : Enumerates Asks items)
    (second : Enumerates Asks' others)
    (hbefore : ∀ {address other item item'}, Asks address item → Asks' other item' →
      address.Before other) :
    Enumerates (fun address item => Asks address item ∨ Asks' address item) (items ++ others) := by
  obtain ⟨log, rfl, hrises, hmem⟩ := first
  obtain ⟨log', rfl, hrises', hmem'⟩ := second
  refine ⟨log ++ log', List.map_append, ?_, ?_⟩
  · refine List.pairwise_append.mpr ⟨hrises, hrises', ?_⟩
    intro entry hentry later hlater
    exact hbefore ((hmem _ _).mp hentry) ((hmem' _ _).mp hlater)
  · intro address item
    rw [List.mem_append, hmem, hmem']

/-- The same list, one level further down. -/
theorem under (h : Enumerates Asks items) (place : Nat) :
    Enumerates (fun address item => ∃ below, address = place :: below ∧ Asks below item)
      items := by
  obtain ⟨log, rfl, hrises, hmem⟩ := h
  refine ⟨log.map fun entry => (place :: entry.1, entry.2), ?_, ?_, ?_⟩
  · rw [List.map_map]
    rfl
  · rw [List.pairwise_map]
    exact hrises.imp fun hbefore => .cons hbefore
  · intro address item
    rw [List.mem_map]
    constructor
    · rintro ⟨entry, hentry, heq⟩
      cases heq
      exact ⟨entry.1, rfl, (hmem _ _).mp hentry⟩
    · rintro ⟨below, rfl, hasks⟩
      exact ⟨(below, item), (hmem _ _).mpr hasks, rfl⟩

/-- The parts of all items: their addresses go on where those of the items end. -/
theorem flatMap {Below : α → Address → β → Prop} {parts : α → List β} {depth : Nat}
    (h : Enumerates Asks items)
    (hdepth : ∀ {address item}, Asks address item → address.length = depth)
    (hparts : ∀ item, Enumerates (Below item) (parts item)) :
    Enumerates (fun address part => ∃ outer item below,
        Asks outer item ∧ Below item below part ∧ address = outer ++ below)
      (items.flatMap parts) := by
  obtain ⟨log, rfl, hrises, hmem⟩ := h
  let logOf (item : α) : List (Address × β) := (hparts item).choose
  have hlogOf : ∀ item, (logOf item).map Prod.snd = parts item ∧
      (logOf item).Pairwise (fun entry later => entry.1.Before later.1) ∧
      ∀ below part, (below, part) ∈ logOf item ↔ Below item below part :=
    fun item => (hparts item).choose_spec
  refine ⟨log.flatMap fun entry => (logOf entry.2).map fun inner => (entry.1 ++ inner.1, inner.2),
    ?_, ?_, ?_⟩
  · rw [List.map_flatMap, List.flatMap_map]
    refine congrArg (List.flatMap · log) (funext fun entry => ?_)
    rw [List.map_map]
    exact (hlogOf entry.2).1
  · refine List.pairwise_flatMap.mpr ⟨?_, ?_⟩
    · intro entry _
      rw [List.pairwise_map]
      exact (hlogOf entry.2).2.1.imp fun hbefore => hbefore.below entry.1
    · refine hrises.imp_of_mem ?_
      intro entry later hentry hlater hbefore first hfirst second hsecond
      obtain ⟨inner, -, rfl⟩ := List.mem_map.mp hfirst
      obtain ⟨inner', -, rfl⟩ := List.mem_map.mp hsecond
      have hlength : entry.1.length = later.1.length :=
        (hdepth ((hmem _ _).mp hentry)).trans (hdepth ((hmem _ _).mp hlater)).symm
      exact hbefore.append hlength inner.1 inner'.1
  · intro address part
    rw [List.mem_flatMap]
    constructor
    · rintro ⟨entry, hentry, hinner⟩
      obtain ⟨inner, hlogged, heq⟩ := List.mem_map.mp hinner
      cases heq
      exact ⟨entry.1, entry.2, inner.1, (hmem _ _).mp hentry, ((hlogOf _).2.2 _ _).mp hlogged, rfl⟩
    · rintro ⟨outer, item, below, hasks, hbelow, rfl⟩
      refine ⟨(outer, item), (hmem _ _).mpr hasks, List.mem_map.mpr ⟨(below, part), ?_, rfl⟩⟩
      exact ((hlogOf item).2.2 below part).mpr hbelow

end Enumerates
end SchemaTypes
