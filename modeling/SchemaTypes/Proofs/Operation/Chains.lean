import Mathlib.Logic.Relation
import SchemaTypes.Operation.Follow
import SchemaTypes.Proofs.Reference
import SchemaTypes.Proofs.Store.Places

set_option autoImplicit false

/-!
# Chains of links

A place leads to one other place at most, so that there is one chain from every start.  It ends at a
node that is no link, it breaks off where a place cannot be resolved or a link cannot be read, or it
comes back to one of its places and goes round forever.  Following links finds out which, and since
the links that it has passed are different nodes of the store, it does so in as many steps as the
store has nodes.
-/

namespace SchemaTypes.Store

open Relation

variable {store : Store} {start r next last : Reference} {passed : List Reference} {fault : Fault}
  {result : Except Fault (Option Reference)}

/-! ## Where links lead -/

/-- The node at a place is a link to another place: it has a string as `$ref`, which is read in the
document that the node stands in. -/
def Links (store : Store) (r next : Reference) : Prop :=
  ∃ node target, store.resolve r = .ok node ∧ node.stringMember? "$ref" = some target ∧
    Reference.parse target r.document = .ok next

/-- A place on a chain from which it cannot go on for a fault: the place cannot be resolved, or it
is a link that cannot be read. -/
inductive Breaks (store : Store) (r : Reference) (fault : Fault) : Prop
  | unresolved (resolves : store.resolve r = .error fault)
  | unread {node : Json} {target : String} (resolves : store.resolve r = .ok node)
      (link : node.stringMember? "$ref" = some target)
      (reads : Reference.parse target r.document = .error fault)

/-- Places lead to one other place at most. -/
theorem links_unique (store : Store) : Relator.RightUnique store.Links := by
  rintro r next other ⟨node, target, hnode, hlink, hnext⟩ ⟨node', target', hnode', hlink', hother⟩
  obtain rfl := Except.ok.inj (hnode.symm.trans hnode')
  obtain rfl := Option.some.inj (hlink.symm.trans hlink')
  exact Except.ok.inj (hnext.symm.trans hother)

theorem Breaks.not_links (h : store.Breaks r fault) : ¬ store.Links r next := by
  rintro ⟨node, target, hnode, hlink, hnext⟩
  cases h with
  | unresolved resolves => cases hnode.symm.trans resolves
  | unread resolves link reads =>
    obtain rfl := Except.ok.inj (hnode.symm.trans resolves)
    obtain rfl := Option.some.inj (hlink.symm.trans link)
    cases hnext.symm.trans reads

theorem not_links_of_stays {node : Json} (hnode : store.resolve r = .ok node)
    (hstays : node.stringMember? "$ref" = none) : ¬ store.Links r next := by
  rintro ⟨other, target, hother, hlink, -⟩
  obtain rfl := Except.ok.inj (hnode.symm.trans hother)
  cases hstays.symm.trans hlink

/-- All places that a cycle leads to lie on it. -/
theorem returns_of_returns (hcycle : TransGen store.Links r r)
    (hleads : ReflTransGen store.Links r next) : TransGen store.Links next next := by
  induction hleads with
  | refl => exact hcycle
  | tail _ hlink ih =>
    obtain ⟨between, hbetween, hback⟩ := TransGen.head'_iff.mp ih
    obtain rfl := links_unique store hbetween hlink
    exact TransGen.tail' hback hlink

/-- Where a chain ends, it leads from everywhere on it. -/
theorem leads_of_not_links (hend : ∀ next, ¬ store.Links last next)
    (hlast : ReflTransGen store.Links start last) (hleads : ReflTransGen store.Links start r) :
    ReflTransGen store.Links r last := by
  rcases ReflTransGen.total_of_right_unique (links_unique store) hlast hleads with hafter | hbefore
  · rcases ReflTransGen.cases_head hafter with rfl | ⟨next, hlink, -⟩
    · exact .refl
    · exact absurd hlink (hend next)
  · exact hbefore

theorem not_returns_of_not_links (hend : ∀ next, ¬ store.Links last next)
    (hlast : ReflTransGen store.Links start last) (hleads : ReflTransGen store.Links start r) :
    ¬ TransGen store.Links r r := by
  intro hcycle
  obtain ⟨next, hlink, -⟩ := TransGen.head'_iff.mp
    (returns_of_returns hcycle (leads_of_not_links hend hlast hleads))
  exact hend next hlink

/-! ## Chains -/

/-- The chain of links from a start comes to a place, past these links, the last one first. -/
inductive Chain (store : Store) (start : Reference) : List Reference → Reference → Prop
  | start : Chain store start [] start
  | link {passed : List Reference} {r next : Reference} (chain : Chain store start passed r)
      (links : store.Links r next) : Chain store start (r :: passed) next

namespace Chain

theorem leads (h : store.Chain start passed r) : ReflTransGen store.Links start r := by
  induction h with
  | start => exact .refl
  | link _ links ih => exact ih.tail links

theorem exists_of_leads (h : ReflTransGen store.Links start r) :
    ∃ passed, store.Chain start passed r := by
  induction h with
  | refl => exact ⟨[], .start⟩
  | tail _ links ih =>
    obtain ⟨passed, hchain⟩ := ih
    exact ⟨_, hchain.link links⟩

theorem leads_of_mem (h : store.Chain start passed r) {q : Reference} (hmem : q ∈ passed) :
    TransGen store.Links q r := by
  induction h with
  | start => cases hmem
  | link _ links ih =>
    rcases List.mem_cons.mp hmem with rfl | hearlier
    · exact .single links
    · exact (ih hearlier).tail links

/-- A chain to a place off all cycles has passed no place twice. -/
theorem nodup (h : store.Chain start passed r) (hend : ¬ TransGen store.Links r r) :
    passed.Nodup := by
  induction h with
  | start => exact List.nodup_nil
  | @link passed q next chain links ih =>
    have hbefore : ¬ TransGen store.Links q q := fun hcycle =>
      hend (returns_of_returns hcycle (.single links))
    exact List.nodup_cons.mpr ⟨fun hmem => hbefore (chain.leads_of_mem hmem), ih hbefore⟩

/-- The links passed are nodes of the store. -/
theorem has (h : store.Chain start passed r) : ∀ q ∈ passed, store.Has q := by
  induction h with
  | start => exact fun q hmem => absurd hmem List.not_mem_nil
  | link _ links ih =>
    obtain ⟨node, target, hnode, -, -⟩ := links
    exact List.forall_mem_cons.mpr ⟨⟨node, hnode⟩, ih⟩

theorem links_of_mem (h : store.Chain start passed r) {q : Reference} (hmem : q ∈ passed) :
    ∃ next, store.Links q next := by
  obtain ⟨next, hlink, -⟩ := TransGen.head'_iff.mp (h.leads_of_mem hmem)
  exact ⟨next, hlink⟩

end Chain

/-! ## Following a chain -/

/-- How following links ends at a place that was come to past these links. -/
inductive EndsAt (store : Store) :
    List Reference → Reference → Except Fault (Option Reference) → Prop
  | found {passed : List Reference} {r : Reference} {node : Json}
      (resolves : store.resolve r = .ok node) (stays : node.stringMember? "$ref" = none) :
      EndsAt store passed r (.ok (some r))
  /-- There is nothing at the first place. -/
  | nothing {r : Reference} (lacks : store.Lacks r) : EndsAt store [] r (.ok none)
  | returns {passed : List Reference} {r : Reference} {node : Json} {target : String}
      (resolves : store.resolve r = .ok node) (link : node.stringMember? "$ref" = some target)
      (again : r ∈ passed) : EndsAt store passed r (.error (linkCycle r))
  | breaks {passed : List Reference} {r : Reference} {fault : Fault}
      (breaks : store.Breaks r fault) (first : r ∉ passed)
      (further : passed = [] → ¬ store.Lacks r) : EndsAt store passed r (.error fault)

theorem stepAt_eq_ends {node : Json} (hnode : store.resolve r = .ok node)
    (h : stepAt passed r node = .ends result) : store.EndsAt passed r result := by
  unfold stepAt at h
  split at h
  · rename_i hstays
    cases h
    exact .found hnode hstays
  · rename_i target hlink
    split at h
    · rename_i hagain
      cases h
      exact .returns hnode hlink hagain
    · rename_i hfirst
      split at h
      · cases h
      · rename_i fault hreads
        cases h
        refine .breaks (.unread hnode hlink hreads) hfirst fun _ hlacks => ?_
        cases hnode.symm.trans (resolve_of_lacks hlacks)

/-- A step ends a chain only as it can end there.  That there is nothing at a place that was led to
is a fault like any other. -/
theorem linkStep_eq_ends (hhas : ∀ q ∈ passed, store.Has q)
    (h : store.linkStep passed r = .ends result) : store.EndsAt passed r result := by
  have hfirst : ∀ {fault}, store.resolve r = .error fault → r ∉ passed := by
    intro fault hresolve hmem
    obtain ⟨node, hnode⟩ := hhas r hmem
    cases hnode.symm.trans hresolve
  unfold linkStep at h
  cases hresolve : store.resolve r with
  | ok node =>
    rw [hresolve] at h
    exact stepAt_eq_ends hresolve h
  | error fault =>
    rw [hresolve] at h
    rcases resolve_error hresolve with ⟨hunknown, rfl⟩ | ⟨hlacks, rfl⟩
    · cases h
      refine .breaks (.unresolved hresolve) (hfirst hresolve) fun _ ⟨document, hdocument, _⟩ => ?_
      cases hunknown.symm.trans hdocument
    · cases passed with
      | nil =>
        cases h
        exact .nothing hlacks
      | cons q rest =>
        cases h
        exact .breaks (.unresolved hresolve) (hfirst hresolve) nofun

theorem linkStep_of_endsAt (h : store.EndsAt passed r result) :
    store.linkStep passed r = .ends result := by
  unfold linkStep
  cases h with
  | found resolves stays => simp only [resolves, stepAt, Json.link?, stays]
  | nothing lacks => simp only [resolve_of_lacks lacks, List.isEmpty_nil, if_true]
  | returns resolves link again => simp only [resolves, stepAt, Json.link?, link, again, if_true]
  | breaks breaks first further =>
    cases breaks with
    | unread resolves link reads =>
      simp only [resolves, stepAt, Json.link?, link, first, reads, if_false]
    | unresolved resolves =>
      rcases resolve_error resolves with ⟨-, rfl⟩ | ⟨hlacks, rfl⟩
      · simp only [resolves]
      · cases passed with
        | nil => exact absurd hlacks (further rfl)
        | cons q rest =>
          simp only [resolves]
          rfl

theorem linkStep_eq_leads (h : store.linkStep passed r = .leads next) :
    store.Links r next ∧ r ∉ passed := by
  unfold linkStep at h
  split at h
  · rename_i node hnode
    unfold stepAt at h
    split at h
    · cases h
    · rename_i target hlink
      split at h
      · cases h
      · rename_i hfirst
        split at h
        · rename_i hreads
          cases h
          exact ⟨⟨node, target, hnode, hlink, hreads⟩, hfirst⟩
        · cases h
  · cases h
  · cases h

theorem linkStep_of_links (h : store.Links r next) (hfirst : r ∉ passed) :
    store.linkStep passed r = .leads next := by
  obtain ⟨node, target, hnode, hlink, hreads⟩ := h
  simp only [linkStep, hnode, stepAt, Json.link?, hlink, hfirst, hreads, if_false]

/-- A bound that allows for every node of the store is not reached: the chain is followed to where
it ends. -/
theorem followFrom_ends {bound : Nat} (hchain : store.Chain start passed r)
    (hnodup : passed.Nodup) (hbound : store.nodeCount ≤ bound + passed.length) :
    ∃ links last, store.Chain start links last ∧ links.Nodup ∧
      store.EndsAt links last (store.followFrom bound passed r) := by
  -- Each link that is passed uses up one of the bound and is one more node of the store.
  induction bound generalizing passed r with
  | zero =>
    cases hstep : store.linkStep passed r with
    | ends result =>
      rw [followFrom_of_ends store 0 passed r result hstep]
      exact ⟨passed, r, hchain, hnodup, linkStep_eq_ends hchain.has hstep⟩
    | leads next =>
      obtain ⟨hlinks, hfirst⟩ := linkStep_eq_leads hstep
      have hle := length_le_nodeCount (List.nodup_cons.mpr ⟨hfirst, hnodup⟩)
        (hchain.link hlinks).has
      rw [List.length_cons] at hle
      omega
  | succ bound ih =>
    cases hstep : store.linkStep passed r with
    | ends result =>
      rw [followFrom_of_ends store _ passed r result hstep]
      exact ⟨passed, r, hchain, hnodup, linkStep_eq_ends hchain.has hstep⟩
    | leads next =>
      obtain ⟨hlinks, hfirst⟩ := linkStep_eq_leads hstep
      rw [followFrom_of_leads store bound passed r next hstep]
      refine ih (hchain.link hlinks) (List.nodup_cons.mpr ⟨hfirst, hnodup⟩) ?_
      rw [List.length_cons]
      omega

/-- A chain is followed to every place that it comes to before it comes back. -/
theorem followFrom_of_chain (hchain : store.Chain start passed r) (hnodup : passed.Nodup)
    (bound : Nat) :
    store.followFrom (bound + passed.length) [] start = store.followFrom bound passed r := by
  induction hchain generalizing bound with
  | start => rfl
  | @link passed q next chain links ih =>
    obtain ⟨hfirst, hrest⟩ := List.nodup_cons.mp hnodup
    rw [List.length_cons, Nat.add_comm passed.length 1, ← Nat.add_assoc, ih hrest,
      followFrom_of_leads store bound passed q next (linkStep_of_links links hfirst)]

/-- Whatever the bound, if a chain is followed to its end within it, it is within a larger one. -/
theorem followFrom_add {bound : Nat}
    (h : store.followFrom bound passed r ≠ .error .nestingExhausted) (extra : Nat) :
    store.followFrom (bound + extra) passed r = store.followFrom bound passed r := by
  induction bound generalizing passed r with
  | zero =>
    cases hstep : store.linkStep passed r with
    | ends result =>
      rw [followFrom_of_ends store _ passed r result hstep,
        followFrom_of_ends store _ passed r result hstep]
    | leads next =>
      refine absurd ?_ h
      simp only [followFrom, hstep]
  | succ bound ih =>
    cases hstep : store.linkStep passed r with
    | ends result =>
      rw [followFrom_of_ends store _ passed r result hstep,
        followFrom_of_ends store _ passed r result hstep]
    | leads next =>
      rw [followFrom_of_leads store bound passed r next hstep] at h ⊢
      rw [Nat.add_right_comm, followFrom_of_leads store _ passed r next hstep, ih h]

/-- No chain ends for want of further steps. -/
theorem EndsAt.ne_exhausted (h : store.EndsAt passed r result) :
    result ≠ .error .nestingExhausted := by
  rintro rfl
  cases h with
  | breaks breaks =>
    cases breaks with
    | unresolved resolves => exact resolve_ne_exhausted resolves
    | unread _ _ reads => exact Reference.parse_ne_exhausted reads

theorem follow_endsAt (store : Store) (start : Reference) :
    ∃ passed last, store.Chain start passed last ∧ passed.Nodup ∧
      store.EndsAt passed last (store.follow start) :=
  followFrom_ends .start List.nodup_nil (Nat.le_add_right _ _)

theorem follow_ne_exhausted (store : Store) (start : Reference) :
    store.follow start ≠ .error .nestingExhausted := by
  obtain ⟨passed, last, -, -, hends⟩ := follow_endsAt store start
  exact hends.ne_exhausted

/-- What following a chain comes to is how it ends where it is first seen to. -/
theorem follow_eq_iff : store.follow start = result ↔
    ∃ passed last, store.Chain start passed last ∧ passed.Nodup ∧
      store.EndsAt passed last result := by
  constructor
  · rintro rfl
    exact follow_endsAt store start
  · rintro ⟨passed, last, hchain, hnodup, hends⟩
    calc store.follow start
        = store.followFrom (store.nodeCount + passed.length) [] start :=
          (followFrom_add (follow_ne_exhausted store start) _).symm
      _ = store.followFrom store.nodeCount passed last := followFrom_of_chain hchain hnodup _
      _ = result := followFrom_of_ends store _ passed last result (linkStep_of_endsAt hends)

/-! ## Ends of a chain -/

/-- That a chain comes back is told apart from every fault that breaks it off. -/
theorem linkCycle_ne_unsupportedFragment (raw fragment : String) :
    linkCycle r ≠ Reference.unsupportedFragment raw fragment := by
  intro h
  obtain ⟨-, hreason⟩ := Fault.malformedSchema.inj h
  have hhead := congrArg (fun reason : String => reason.toList.head?) hreason
  simp [String.toList_append] at hhead

theorem Breaks.ne_linkCycle (h : store.Breaks r fault) (q : Reference) : fault ≠ linkCycle q := by
  rintro rfl
  cases h with
  | unresolved resolves =>
    rcases resolve_error resolves with ⟨-, hfault⟩ | ⟨-, hfault⟩ <;> cases hfault
  | unread _ _ reads =>
    rcases Reference.parse_error reads with ⟨document, hfault⟩ | ⟨fragment, hfault⟩
    · cases hfault
    · exact linkCycle_ne_unsupportedFragment _ _ hfault

theorem eq_of_linkCycle_eq {q : Reference} (h : linkCycle r = linkCycle q) : r = q :=
  Reference.eq_of_canonical_eq (Fault.malformedSchema.inj h).1

/-- A chain that leads to where it cannot go on ends there. -/
theorem follow_of_leads (hleads : ReflTransGen store.Links start last)
    (hend : ∀ next, ¬ store.Links last next)
    (hends : ∀ passed, store.Chain start passed last → store.EndsAt passed last result) :
    store.follow start = result := by
  obtain ⟨passed, hchain⟩ := Chain.exists_of_leads hleads
  refine follow_eq_iff.mpr ⟨passed, last, hchain, hchain.nodup ?_, hends passed hchain⟩
  exact not_returns_of_not_links hend hleads hleads

theorem follow_eq_some_iff : store.follow start = .ok (some last) ↔
    ReflTransGen store.Links start last ∧
      ∃ node, store.resolve last = .ok node ∧ node.stringMember? "$ref" = none := by
  constructor
  · intro h
    obtain ⟨passed, other, hchain, -, hends⟩ := follow_eq_iff.mp h
    cases hends with
    | found resolves stays => exact ⟨hchain.leads, _, resolves, stays⟩
  · rintro ⟨hleads, node, hnode, hstays⟩
    exact follow_of_leads hleads (fun _ => not_links_of_stays hnode hstays)
      fun _ _ => .found hnode hstays

theorem follow_eq_none_iff : store.follow start = .ok none ↔ store.Lacks start := by
  constructor
  · intro h
    obtain ⟨passed, last, hchain, -, hends⟩ := follow_eq_iff.mp h
    cases hends with
    | nothing lacks =>
      cases hchain
      exact lacks
  · intro hlacks
    exact follow_eq_iff.mpr ⟨[], start, .start, List.nodup_nil, .nothing hlacks⟩

/-- The place at which a chain is found to come back is the first one that it comes back to. -/
theorem follow_eq_linkCycle_iff : store.follow start = .error (linkCycle r) ↔
    ∃ passed, store.Chain start passed r ∧ passed.Nodup ∧ r ∈ passed := by
  constructor
  · intro h
    obtain ⟨passed, last, hchain, hnodup, hends⟩ := follow_eq_iff.mp h
    generalize hfault : Except.error (linkCycle r) = result at hends
    cases hends with
    | found => cases hfault
    | nothing => cases hfault
    | returns _ _ again =>
      obtain rfl := eq_of_linkCycle_eq (Except.error.inj hfault)
      exact ⟨passed, hchain, hnodup, again⟩
    | breaks breaks =>
      exact absurd (Except.error.inj hfault).symm (breaks.ne_linkCycle r)
  · rintro ⟨passed, hchain, hnodup, hagain⟩
    obtain ⟨next, node, target, hnode, hlink, -⟩ := hchain.links_of_mem hagain
    exact follow_eq_iff.mpr ⟨passed, r, hchain, hnodup, .returns hnode hlink hagain⟩

/-- A chain that goes round is found to come back. -/
theorem exists_linkCycle_iff : (∃ r, store.follow start = .error (linkCycle r)) ↔
    ∃ r, ReflTransGen store.Links start r ∧ TransGen store.Links r r := by
  constructor
  · rintro ⟨r, h⟩
    obtain ⟨passed, hchain, -, hagain⟩ := follow_eq_linkCycle_iff.mp h
    exact ⟨r, hchain.leads, hchain.leads_of_mem hagain⟩
  · rintro ⟨r, hleads, hcycle⟩
    obtain ⟨passed, last, hchain, -, hends⟩ := follow_endsAt store start
    -- a chain that ends in any other way would end on the cycle
    have hgoes : ¬ ∀ next, ¬ store.Links last next := fun hend =>
      not_returns_of_not_links hend hchain.leads hleads hcycle
    generalize hresult : store.follow start = result at hends
    cases hends with
    | found resolves stays => exact absurd (fun _ => not_links_of_stays resolves stays) hgoes
    | nothing lacks =>
      exact absurd (fun _ => (Breaks.unresolved (resolve_of_lacks lacks)).not_links) hgoes
    | returns => exact ⟨last, rfl⟩
    | breaks breaks => exact absurd (fun _ => breaks.not_links) hgoes

/-- Any other fault is that of the place where the chain breaks off. -/
theorem follow_eq_error_iff :
    (store.follow start = .error fault ∧ ∀ r, fault ≠ linkCycle r) ↔
      ¬ store.Lacks start ∧ ∃ r, ReflTransGen store.Links start r ∧ store.Breaks r fault := by
  constructor
  · rintro ⟨h, hfault⟩
    refine ⟨fun hlacks => ?_, ?_⟩
    · rw [follow_eq_none_iff.mpr hlacks] at h
      cases h
    · obtain ⟨passed, last, hchain, -, hends⟩ := follow_eq_iff.mp h
      cases hends with
      | returns => exact absurd rfl (hfault last)
      | breaks breaks => exact ⟨last, hchain.leads, breaks⟩
  · rintro ⟨hthere, r, hleads, hbreaks⟩
    have hend : ∀ next, ¬ store.Links r next := fun _ => hbreaks.not_links
    refine ⟨follow_of_leads hleads hend fun passed hchain => ?_, hbreaks.ne_linkCycle⟩
    refine .breaks hbreaks (fun hmem => ?_) ?_
    · obtain ⟨next, hlinks⟩ := hchain.links_of_mem hmem
      exact hend next hlinks
    · rintro rfl
      cases hchain
      exact hthere

/-- In every store and from every start, following links comes to an end, and to the same one for
any bound that allows for every node of the store.  It gives a place exactly if the chain leads
there and the node there has no string as `$ref`; nothing exactly if the path of the start leads
nowhere in its document; the fault of a cycle exactly if the chain comes back to one of its places,
namely the first such one; and any other fault exactly if the chain, which has a start, leads to
where it breaks off for that fault. -/
theorem links_are_followed_to_the_end (store : Store) (start : Reference) :
    (∀ extra, store.followFrom (store.nodeCount + extra) [] start = store.follow start) ∧
    store.follow start ≠ .error .nestingExhausted ∧
    (∀ last, store.follow start = .ok (some last) ↔
      ReflTransGen store.Links start last ∧
        ∃ node, store.resolve last = .ok node ∧ node.stringMember? "$ref" = none) ∧
    (store.follow start = .ok none ↔
      ∃ document, store.get? start.document = some document ∧
        document.walk? start.path = none) ∧
    ((∃ r, store.follow start = .error (linkCycle r)) ↔
      ∃ r, ReflTransGen store.Links start r ∧ TransGen store.Links r r) ∧
    (∀ r, store.follow start = .error (linkCycle r) ↔
      ∃ passed, store.Chain start passed r ∧ passed.Nodup ∧ r ∈ passed) ∧
    ∀ fault, (store.follow start = .error fault ∧ ∀ r, fault ≠ linkCycle r) ↔
      ¬ store.Lacks start ∧
        ∃ r, ReflTransGen store.Links start r ∧ store.Breaks r fault :=
  ⟨followFrom_add (follow_ne_exhausted store start), follow_ne_exhausted store start,
    fun _ => follow_eq_some_iff, follow_eq_none_iff, exists_linkCycle_iff,
    fun _ => follow_eq_linkCycle_iff, fun _ => follow_eq_error_iff⟩

/-- A chain into another document and on in there, and one that goes round. -/
example :
    let link (target : String) : Json := .object [("$ref", .string target)]
    let store : Store := ⟨[
      ("api.json", .object
        [("here", link "parts.json#/there"), ("round", link "parts.json#/back")]),
      ("parts.json", .object [("back", link "api.json#/round"), ("body", .object []),
        ("there", link "#/body")])]⟩
    store.follow ⟨"api.json", ["here"]⟩ = .ok (some ⟨"parts.json", ["body"]⟩) ∧
      store.follow ⟨"parts.json", ["back"]⟩ =
        .error (linkCycle ⟨"parts.json", ["back"]⟩) := by
  decide +kernel

end SchemaTypes.Store
