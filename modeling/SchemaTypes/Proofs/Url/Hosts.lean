import SchemaTypes.Proofs.Url.Escapes
import SchemaTypes.Proofs.Url.Ipv6

set_option autoImplicit false

/-!
# Hosts

Every host that is read is read back from its text, and its text holds no character that could end
it: its colons, if it has any, stand in brackets.
-/

namespace SchemaTypes.Url

/-! ## Hosts without their kind -/

/-- Characters that hosts are made of: visible, and none that ends an authority or a user name. -/
def isHostChar (c : Char) : Bool :=
  0x20 < c.toNat && c.toNat < 0x80 && !"#/?@\\".toList.contains c

/-- A text that is left whole when it is read as the first part of an authority. -/
structure IsHostText (text : List Char) : Prop where
  chars : ∀ c ∈ text, isHostChar c = true
  splitPort : ∀ rest, splitPort false (text ++ rest) =
    (text ++ (splitPort false rest).1, (splitPort false rest).2)

theorem splitPort_append {text : List Char} (inside : Bool)
    (h : ∀ c ∈ text, (c = ':' → inside = true) ∧ c ≠ '[' ∧ c ≠ ']') (rest : List Char) :
    splitPort inside (text ++ rest) =
      (text ++ (splitPort inside rest).1, (splitPort inside rest).2) := by
  induction text with
  | nil => rfl
  | cons c more ih =>
    obtain ⟨⟨hcolon, hopen, hclose⟩, hmore⟩ := List.forall_mem_cons.mp h
    have hnot : ¬(c = ':' && !inside) = true := by
      simp only [Bool.and_eq_true, decide_eq_true_eq, Bool.not_eq_true']
      rintro ⟨hc, hinside⟩
      rw [hcolon hc] at hinside
      cases hinside
    rw [List.cons_append, splitPort, if_neg hnot]
    simp only [hopen, hclose, if_false, ih hmore, List.cons_append]

theorem isHostText_of_name {text : List Char}
    (h : ∀ c ∈ text, isHostChar c = true ∧ c ≠ ':' ∧ c ≠ '[' ∧ c ≠ ']') : IsHostText text where
  chars c hc := (h c hc).1
  splitPort rest := splitPort_append false
    (fun c hc => ⟨fun hcolon => absurd hcolon (h c hc).2.1, (h c hc).2.2⟩) rest

theorem isHostText_of_brackets {text : List Char}
    (h : ∀ c ∈ text, isHostChar c = true ∧ c ≠ '[' ∧ c ≠ ']') :
    IsHostText ('[' :: text ++ [']']) where
  chars c hc := by
    rcases List.mem_append.mp hc with hc | hc
    · rcases List.mem_cons.mp hc with rfl | hc
      · decide
      · exact (h c hc).1
    · rw [List.mem_singleton.mp hc]
      decide
  splitPort rest := by
    have hinside : splitPort true (text ++ ']' :: rest) =
        (text ++ ']' :: (splitPort false rest).1, (splitPort false rest).2) := by
      rw [splitPort_append true (fun c hc => ⟨fun _ => rfl, (h c hc).2⟩)]
      rfl
    rw [List.append_assoc, List.cons_append, splitPort, if_neg (by decide)]
    simp only [if_true, hinside, List.append_assoc, List.cons_append,
      List.nil_append]

/-! ## Addresses -/

theorem mem_ipv4Text {address : Nat} {c : Char} (h : c ∈ ipv4Text address) :
    c.isDigit = true ∨ c = '.' := by
  unfold ipv4Text at h
  simp only [List.mem_append, List.mem_cons] at h
  rcases h with ((hc | rfl | hc) | rfl | hc) | rfl | hc
  · exact Or.inl (Text.isDigit_of_mem_decimal hc)
  · exact Or.inr rfl
  · exact Or.inl (Text.isDigit_of_mem_decimal hc)
  · exact Or.inr rfl
  · exact Or.inl (Text.isDigit_of_mem_decimal hc)
  · exact Or.inr rfl
  · exact Or.inl (Text.isDigit_of_mem_decimal hc)

/-- Digits and dots stay as they are in the name of a host. -/
theorem of_mem_ipv4Text {address : Nat} {c : Char} (h : c ∈ ipv4Text address) :
    (isHostChar c = true ∧ c ≠ ':' ∧ c ≠ '[' ∧ c ≠ ']') ∧
      isForbiddenName c = false ∧ c.toLower = c := by
  rcases mem_ipv4Text h with hdigit | rfl
  · exact Text.of_ascii (P := fun c => c.isDigit = true →
      (isHostChar c = true ∧ c ≠ ':' ∧ c ≠ '[' ∧ c ≠ ']') ∧
        isForbiddenName c = false ∧ c.toLower = c)
      (by decide +kernel) (Text.toNat_lt_of_isDigit hdigit) hdigit
  · decide +kernel

theorem ipv4Text_ne_nil (address : Nat) : ipv4Text address ≠ [] := by
  unfold ipv4Text
  simp

theorem isHostText_ipv4 (address : Nat) : IsHostText (ipv4Text address) :=
  isHostText_of_name fun _ hc => (of_mem_ipv4Text hc).1

theorem mem_hexPieces {list : List Nat} {c : Char} (h : c ∈ hexPieces list) :
    (Hex.value? c).isSome = true ∨ c = ':' := by
  match list with
  | [] => cases h
  | [piece] => exact Or.inl (isSome_of_mem_hex h)
  | piece :: next :: rest =>
    rw [hexPieces] at h
    rcases List.mem_append.mp h with hc | hc
    · exact Or.inl (isSome_of_mem_hex hc)
    · rcases List.mem_cons.mp hc with rfl | hc
      · exact Or.inr rfl
      · exact mem_hexPieces hc

theorem mem_ipv6Text {pieces : List Nat} {c : Char} (h : c ∈ ipv6Text pieces) :
    (Hex.value? c).isSome = true ∨ c = ':' := by
  unfold ipv6Text at h
  simp only at h
  split at h
  · exact mem_hexPieces h
  · rcases List.mem_append.mp h with hc | hc
    · exact mem_hexPieces hc
    · rcases List.mem_cons.mp hc with rfl | hc
      · exact Or.inr rfl
      · rcases List.mem_cons.mp hc with rfl | hc
        · exact Or.inr rfl
        · exact mem_hexPieces hc

theorem isHostText_ipv6 (pieces : List Nat) : IsHostText ('[' :: ipv6Text pieces ++ [']']) := by
  refine isHostText_of_brackets fun c hc => ?_
  rcases mem_ipv6Text hc with hdigit | rfl
  · exact Text.of_ascii (P := fun c => (Hex.value? c).isSome = true →
      isHostChar c = true ∧ c ≠ '[' ∧ c ≠ ']')
      (by decide +kernel) (Percent.toNat_lt_of_digit hdigit) hdigit
  · decide +kernel

/-! ## Hosts of special URLs -/

theorem of_not_forbiddenHost {c : Char} (hascii : c.toNat < 0x80)
    (h : isForbiddenHost c = false) (hcontrol : Percent.controls c = false) :
    isHostChar c = true ∧ c ≠ ':' ∧ c ≠ '[' ∧ c ≠ ']' :=
  Text.of_ascii (P := fun c => isForbiddenHost c = false → Percent.controls c = false →
    isHostChar c = true ∧ c ≠ ':' ∧ c ≠ '[' ∧ c ≠ ']') (by decide +kernel) hascii h hcontrol

theorem of_not_forbiddenName {c : Char} (h : isForbiddenName c = false) :
    isHostChar c = true ∧ c ≠ ':' ∧ c ≠ '[' ∧ c ≠ ']' := by
  simp only [isForbiddenName, Bool.or_eq_false_iff, decide_eq_false_iff_not] at h
  exact of_not_forbiddenHost (by omega) h.1.1.1 h.1.1.2

/-- The name of a host that is no address. -/
structure IsName (name : List Char) : Prop where
  nonempty : name ≠ []
  allowed : name.any isForbiddenName = false
  lower : name.map Char.toLower = name
  unnumbered : endsInNumber name = false

theorem special?_of_allowed {name : List Char} (hne : name ≠ [])
    (hallowed : name.any isForbiddenName = false) (hlower : name.map Char.toLower = name) :
    Host.special? name =
      if endsInNumber name then (ipv4? name).map Host.ipv4 else some (Host.name name) := by
  have hall : ∀ c ∈ name, isForbiddenName c = false := by simpa using hallowed
  have hdecode : Percent.decode name = name :=
    Percent.decode_of_not_mem fun h => absurd (hall _ h) (by decide)
  have hempty : name.isEmpty = false := by simpa using hne
  unfold Host.special?
  split
  · exact absurd (hall '[' (List.mem_cons_self ..)) (by decide)
  · simp only [hdecode, hlower, hempty, hallowed, Bool.or_self, Bool.false_eq_true, if_false]

theorem bracketed?_ipv6Text {pieces : List Nat} (hlength : pieces.length = 8)
    (hwords : AreWords pieces) :
    bracketed? ('[' :: ipv6Text pieces ++ [']']) = some (.ipv6 pieces) := by
  unfold bracketed?
  rw [List.getLast?_concat]
  simp only [List.cons_append, List.drop_succ_cons, List.drop_zero, List.dropLast_concat,
    ipv6?_ipv6Text hlength hwords, Option.map_some]

theorem of_bracketed? {text : List Char} {host : Host} (h : bracketed? text = some host) :
    ∃ pieces, host = .ipv6 pieces ∧ pieces.length = 8 ∧ AreWords pieces := by
  unfold bracketed? at h
  split at h
  · obtain ⟨pieces, hpieces, rfl⟩ := Option.map_eq_some_iff.mp h
    exact ⟨pieces, rfl, of_ipv6? hpieces⟩
  · cases h

/-- A host that special URLs can have. -/
inductive Host.IsSpecial : Host → Prop
  | name {name : List Char} (h : IsName name) : IsSpecial (.name name)
  | ipv4 {address : Nat} (h : address < 4294967296) : IsSpecial (.ipv4 address)
  | ipv6 {pieces : List Nat} (hlength : pieces.length = 8) (hwords : AreWords pieces) :
    IsSpecial (.ipv6 pieces)

theorem Host.IsSpecial.of_read {text : List Char} {host : Host}
    (h : Host.special? text = some host) : host.IsSpecial := by
  unfold Host.special? at h
  split at h
  · obtain ⟨pieces, rfl, hlength, hwords⟩ := of_bracketed? h
    exact .ipv6 hlength hwords
  · simp only at h
    split at h
    · cases h
    · rename_i hallowed
      simp only [Bool.or_eq_true, not_or, Bool.not_eq_true] at hallowed
      split at h
      · obtain ⟨address, haddress, rfl⟩ := Option.map_eq_some_iff.mp h
        exact .ipv4 (lt_of_ipv4? haddress)
      · rename_i hnumber
        cases h
        refine .name ⟨?_, hallowed.2, ?_, by simpa using hnumber⟩
        · simpa using hallowed.1
        · rw [List.map_map]
          refine List.map_congr_left fun c _ => ?_
          exact Text.toLower_toLower c

/-- A host of a special URL is read back from its text. -/
theorem Host.IsSpecial.read {host : Host} (h : host.IsSpecial) :
    Host.special? host.text = some host := by
  cases h with
  | name h =>
    rw [Host.text, special?_of_allowed h.nonempty h.allowed h.lower, h.unnumbered]
    rfl
  | @ipv4 address h =>
    have hallowed : (ipv4Text address).any isForbiddenName = false := by
      simpa using fun c hc => (of_mem_ipv4Text (c := c) hc).2.1
    have hlower : (ipv4Text address).map Char.toLower = ipv4Text address := by
      rw [List.map_congr_left fun c hc => (of_mem_ipv4Text hc).2.2]
      exact List.map_id' _
    rw [Host.text, special?_of_allowed (ipv4Text_ne_nil address) hallowed hlower,
      endsInNumber_ipv4Text, if_pos rfl, ipv4?_ipv4Text h]
    rfl
  | ipv6 hlength hwords => exact bracketed?_ipv6Text hlength hwords

theorem Host.IsSpecial.isHostText {host : Host} (h : host.IsSpecial) : IsHostText host.text := by
  cases h with
  | @name name h =>
    have hallowed : ∀ c ∈ name, isForbiddenName c = false := by simpa using h.allowed
    exact isHostText_of_name fun c hc => of_not_forbiddenName (hallowed c hc)
  | ipv4 h => exact isHostText_ipv4 _
  | ipv6 hlength hwords => exact isHostText_ipv6 _

theorem Host.IsSpecial.text_ne_nil {host : Host} (h : host.IsSpecial) : host.text ≠ [] := by
  cases h with
  | name h => exact h.nonempty
  | ipv4 h => exact ipv4Text_ne_nil _
  | ipv6 hlength hwords => exact List.cons_ne_nil _ _

/-! ## Hosts of other URLs -/

/-- A host that URLs of the general kind can have. -/
inductive Host.IsGeneral : Host → Prop
  | name {name : List Char} (hallowed : ∀ c ∈ name, isForbiddenHost c = false)
    (hclean : Percent.Clean Percent.controls name) : IsGeneral (.name name)
  | ipv6 {pieces : List Nat} (hlength : pieces.length = 8) (hwords : AreWords pieces) :
    IsGeneral (.ipv6 pieces)

theorem Host.IsGeneral.of_read {text : List Char} {host : Host}
    (h : Host.general? text = some host) : host.IsGeneral := by
  unfold Host.general? at h
  split at h
  · obtain ⟨pieces, rfl, hlength, hwords⟩ := of_bracketed? h
    exact .ipv6 hlength hwords
  · split at h
    · cases h
    · rename_i hallowed
      cases h
      simp only [Bool.not_eq_true, List.any_eq_false] at hallowed
      refine .name (fun c hc => ?_)
        (Percent.clean_encode isPartSet_controls.toKeepsEscapes text)
      rcases Percent.mem_encode hc with ⟨hmem, -⟩ | rfl | ⟨n, hn, rfl⟩
      · exact hallowed c hmem
      · decide
      · have hdigits : ∀ m < 16, isForbiddenHost (Hex.upperDigit m) = false := by decide +kernel
        exact hdigits n hn

theorem Host.IsGeneral.read {host : Host} (h : host.IsGeneral) :
    Host.general? host.text = some host := by
  cases h with
  | @name name hallowed hclean =>
    have hnone : name.any isForbiddenHost = false := by simpa using hallowed
    change Host.general? name = _
    unfold Host.general?
    split
    · exact absurd (hallowed '[' (List.mem_cons_self ..)) (by decide)
    · rw [hnone, Percent.encode_of_clean hclean]
      rfl
  | ipv6 hlength hwords => exact bracketed?_ipv6Text hlength hwords

theorem Host.IsGeneral.isHostText {host : Host} (h : host.IsGeneral) : IsHostText host.text := by
  cases h with
  | name hallowed hclean =>
    exact isHostText_of_name fun c hc =>
      of_not_forbiddenHost (hclean c hc).1 (hallowed c hc) (hclean c hc).2
  | ipv6 hlength hwords => exact isHostText_ipv6 _

end SchemaTypes.Url
