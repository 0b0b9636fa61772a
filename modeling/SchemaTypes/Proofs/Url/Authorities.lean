import SchemaTypes.Proofs.Url.Hosts

set_option autoImplicit false

/-!
# Authorities

A user, a host and a port that were read are read back from the text that they make up, and that
text ends where a path, a query or a fragment begins.
-/

namespace SchemaTypes.Url

/-! ## Users -/

/-- A name and a password with the colon between them, if there is a password. -/
def joinUser (name password : List Char) : List Char :=
  name ++ if password.isEmpty then [] else ':' :: password

/-- A user name and a password that are escaped; one of them is given. -/
structure IsUser (name password : List Char) : Prop where
  cleanName : Percent.Clean userSet name
  cleanPassword : Percent.Clean userSet password
  given : joinUser name password ≠ []

/-- A name without a colon is escaped up to the colon, and the password after it. -/
theorem userText_joinUser {name : List Char} (hname : ':' ∉ name) (password : List Char) :
    userText (joinUser name password) =
      if (joinUser name password).isEmpty then []
      else joinUser (Percent.encode userSet name) (Percent.encode userSet password) ++ ['@'] := by
  unfold userText joinUser
  cases password with
  | nil =>
    simp only [List.isEmpty_nil, if_true, List.append_nil, Text.splitFirst?_eq_none hname,
      Percent.isEmpty_encode]
  | cons c rest =>
    simp [Text.splitFirst?_append_cons hname, Percent.isEmpty_encode]

/-- User and password are read back from their text. -/
theorem IsUser.read {name password : List Char} (h : IsUser name password) :
    userText (joinUser name password) = joinUser name password ++ ['@'] := by
  have hempty : (joinUser name password).isEmpty = false := by simpa using h.given
  rw [userText_joinUser (h.cleanName.not_mem (by decide)), hempty,
    Percent.encode_of_clean h.cleanName, Percent.encode_of_clean h.cleanPassword]
  rfl

/-- What is read as a user is nothing, or a name and a password that are escaped. -/
theorem exists_of_userText (text : List Char) : userText text = [] ∨ ∃ name password,
    IsUser name password ∧ userText text = joinUser name password ++ ['@'] := by
  have hclean := Percent.clean_encode isPartSet_userSet.toKeepsEscapes
  obtain ⟨name, password, htext⟩ : ∃ name password, userText text =
      if (joinUser (Percent.encode userSet name) (Percent.encode userSet password)).isEmpty then []
      else joinUser (Percent.encode userSet name) (Percent.encode userSet password) ++ ['@'] := by
    unfold userText joinUser
    cases Text.splitFirst? ':' text with
    | none => exact ⟨text, [], rfl⟩
    | some parts => exact ⟨parts.1, parts.2, by simp only [Percent.isEmpty_encode]⟩
  rw [htext]
  split
  · exact Or.inl rfl
  · rename_i hgiven
    exact Or.inr ⟨_, _, ⟨hclean name, hclean password, by simpa using hgiven⟩, rfl⟩

/-! ## Ports -/

/-- A port is read back from its numeral. -/
theorem readPort?_decimal {port : Nat} (h : port ≤ 65535) :
    readPort? (Nat.toDigits 10 port) = some (some port, []) := by
  have hdigits : ∀ c ∈ Nat.toDigits 10 port, c.isDigit = true := fun _ =>
    Text.isDigit_of_mem_decimal
  have htake : (Nat.toDigits 10 port ++ []).takeWhile Char.isDigit = Nat.toDigits 10 port ++ [] :=
    List.takeWhile_append_of_pos hdigits
  have hdrop : (Nat.toDigits 10 port ++ []).dropWhile Char.isDigit = [] :=
    List.dropWhile_append_of_pos hdigits
  have hne : (Nat.toDigits 10 port).isEmpty = false := by simp
  rw [List.append_nil] at htake hdrop
  unfold readPort?
  simp only [htake, hdrop, Text.foldl_toDigits, hne]
  rw [if_neg (by simpa using h)]
  rfl

theorem le_of_readPort? {text rest : List Char} {port : Nat}
    (h : readPort? text = some (some port, rest)) : port ≤ 65535 := by
  unfold readPort? at h
  simp only at h
  split at h
  · cases h
  · rename_i hbound
    simp only [Bool.or_eq_true, decide_eq_true_eq, not_or] at hbound
    simp only [Option.some.injEq, Prod.mk.injEq] at h
    split at h
    · cases h.1
    · have hport := Option.some.inj h.1
      omega

/-! ## Hosts with users and ports -/

/-- A host that URLs of a kind can have. -/
def Host.IsOf (kind : Kind) (host : Host) : Prop :=
  if kind = .general then host.IsGeneral else host.IsSpecial

/-- An authority that URLs of a scheme can have. -/
structure Authority.IsOf (kind : Kind) (scheme : List Char) (authority : Authority) : Prop where
  user : authority.user = [] ∨ ∃ name password,
    IsUser name password ∧ authority.user = joinUser name password ++ ['@']
  host : authority.host.IsOf kind
  hosted : authority.host.isEmpty = true → authority.user = [] ∧ authority.port = none
  port : ∀ port, authority.port = some port → port ≤ 65535 ∧ defaultPort? scheme ≠ some port

theorem readHost?_isOf {kind : Kind} {scheme user text rest : List Char} {authority : Authority}
    (huser : user = [] ∨ ∃ name password, IsUser name password ∧
      user = joinUser name password ++ ['@'])
    (h : readHost? kind scheme user text = some (authority, rest)) :
    authority.IsOf kind scheme := by
  unfold readHost? at h
  simp only at h
  split at h
  · cases h
  · rename_i host hhost
    split at h
    · cases h
    · rename_i hhosted
      split at h
      · cases h
      · rename_i port after hport
        cases h
        refine ⟨huser, ?_, ?_, ?_⟩
        · unfold Host.IsOf
          split at hhost
          · rename_i hkind
            rw [if_pos hkind]
            exact .of_read hhost
          · rename_i hkind
            rw [if_neg hkind]
            split at hhost
            · cases hhost
            · exact .of_read hhost
        · intro hempty
          simp only [hempty, Bool.true_and, Bool.or_eq_true, not_or, Bool.not_eq_true,
            Option.isSome_eq_false_iff, Bool.not_eq_false', List.isEmpty_iff,
            Option.isNone_iff_eq_none] at hhosted
          rw [hhosted.1] at hport
          cases hport
          exact ⟨hhosted.2, ite_self _⟩
        · intro given hgiven
          simp only at hgiven
          split at hgiven
          · cases hgiven
          · rename_i hdefault
            subst hgiven
            exact ⟨le_of_readPort? hport, fun heq => hdefault heq.symm⟩

/-- Every authority that is read is one that URLs of its scheme can have. -/
theorem readAuthority?_isOf {kind : Kind} {scheme text rest : List Char} {isLast : Bool}
    {authority : Authority} (h : readAuthority? kind scheme text isLast = some (authority, rest)) :
    authority.IsOf kind scheme := by
  unfold readAuthority? at h
  split at h
  · exact readHost?_isOf (Or.inl rfl) h
  · split at h
    · cases h
    · exact readHost?_isOf (Or.inl rfl) h
  · exact readHost?_isOf (exists_of_userText _) h

/-! ## Authorities read back -/

theorem Host.IsOf.isHostText {kind : Kind} {host : Host} (h : host.IsOf kind) :
    IsHostText host.text := by
  unfold IsOf at h
  split at h
  · exact h.isHostText
  · exact h.isHostText

/-- The text of a port, after its colon. -/
def portText (port : Option Nat) : List Char := partText ':' (port.map (Nat.toDigits 10))

theorem Authority.text_eq (authority : Authority) :
    authority.text = authority.user ++ (authority.host.text ++ portText authority.port) := by
  unfold Authority.text portText
  cases authority.port <;> simp [partText]

/-- Characters that authorities are made of: visible, and none that ends an authority. -/
def isAuthorityChar (c : Char) : Bool := isHostChar c || c = '@'

theorem isAuthorityChar_of_mem_user {name password : List Char} (h : IsUser name password)
    {c : Char} (hc : c ∈ joinUser name password ++ ['@']) : isAuthorityChar c = true := by
  have hclean : ∀ c : Char, c.toNat < 0x80 ∧ userSet c = false → isAuthorityChar c = true :=
    fun c hc => Text.of_ascii (P := fun c => userSet c = false → isAuthorityChar c = true)
      (by decide +kernel) hc.1 hc.2
  rcases List.mem_append.mp hc with hc | hc
  · rcases List.mem_append.mp hc with hc | hc
    · exact hclean c (h.cleanName c hc)
    · split at hc
      · cases hc
      · rcases List.mem_cons.mp hc with rfl | hc
        · decide
        · exact hclean c (h.cleanPassword c hc)
  · rw [List.mem_singleton.mp hc]
    decide

theorem isHostChar_of_mem_portText {port : Option Nat} {c : Char} (hc : c ∈ portText port) :
    isHostChar c = true := by
  cases port with
  | none => cases hc
  | some port =>
    rcases List.mem_cons.mp hc with rfl | hc
    · decide
    · have hdigit := Text.isDigit_of_mem_decimal hc
      exact Text.of_ascii (P := fun c => c.isDigit = true → isHostChar c = true)
        (by decide +kernel) (Text.toNat_lt_of_isDigit hdigit) hdigit

theorem isAuthorityChar_of_isHostChar {c : Char} (h : isHostChar c = true) :
    isAuthorityChar c = true := by
  rw [isAuthorityChar, h]
  rfl

section IsOf

variable {kind : Kind} {scheme : List Char} {authority : Authority}
  (h : authority.IsOf kind scheme)

include h

/-- No character of an authority ends it. -/
theorem Authority.IsOf.chars {c : Char} (hc : c ∈ authority.text) : isAuthorityChar c = true := by
  rw [Authority.text_eq] at hc
  rcases List.mem_append.mp hc with hc | hc
  · rcases h.user with hnone | ⟨name, password, huser, htext⟩
    · rw [hnone] at hc
      cases hc
    · rw [htext] at hc
      exact isAuthorityChar_of_mem_user huser hc
  · rcases List.mem_append.mp hc with hc | hc
    · exact isAuthorityChar_of_isHostChar (h.host.isHostText.chars c hc)
    · exact isAuthorityChar_of_isHostChar (isHostChar_of_mem_portText hc)

theorem Authority.IsOf.read_host : readHost? kind scheme authority.user
    (authority.host.text ++ portText authority.port) = some (authority, []) := by
  obtain ⟨user, host, port⟩ := authority
  have hsplit : splitPort false (host.text ++ portText port) =
      (host.text, port.map (Nat.toDigits 10)) := by
    rw [h.host.isHostText.splitPort]
    cases port with
    | none => exact Prod.ext (List.append_nil _) rfl
    | some port => exact Prod.ext (List.append_nil _) rfl
  have hhost : (if kind = .general then Host.general? host.text
      else if host.text.isEmpty then none else Host.special? host.text) = some host := by
    have hof := h.host
    unfold Host.IsOf at hof
    split at hof
    · rename_i hkind
      rw [if_pos hkind]
      exact hof.read
    · rename_i hkind
      have hne : host.text.isEmpty = false := by simpa using hof.text_ne_nil
      rw [if_neg hkind, hne]
      exact hof.read
  have hhosted :
      (host.isEmpty && ((port.map (Nat.toDigits 10)).isSome || !user.isEmpty)) = false := by
    cases hempty : host.isEmpty with
    | false => rfl
    | true =>
      obtain ⟨huser, hport⟩ := h.hosted hempty
      simp only at huser hport
      rw [huser, hport]
      rfl
  have hport : readPort? ((port.map (Nat.toDigits 10)).getD []) = some (port, []) := by
    cases port with
    | none => rfl
    | some port => exact readPort?_decimal (h.port port rfl).1
  have hgiven : (if port = defaultPort? scheme then none else port) = port := by
    split
    · rename_i hdefault
      cases port with
      | none => rfl
      | some port => exact absurd hdefault.symm (h.port port rfl).2
    · rfl
  unfold readHost?
  simp only [hsplit, hhost, hhosted, hport, hgiven, Bool.false_eq_true, if_false]

/-- An authority is read back from its text. -/
theorem Authority.IsOf.read (isLast : Bool) :
    readAuthority? kind scheme authority.text isLast = some (authority, []) := by
  have hhost := h.read_host
  have hsign : '@' ∉ authority.host.text ++ portText authority.port := by
    intro hmem
    have hchar : isHostChar '@' = true := by
      rcases List.mem_append.mp hmem with hc | hc
      · exact h.host.isHostText.chars _ hc
      · exact isHostChar_of_mem_portText hc
    exact absurd hchar (by decide)
  rw [Authority.text_eq]
  unfold readAuthority?
  rcases h.user with hnone | ⟨name, password, huser, htext⟩
  · rw [hnone, List.nil_append, Text.splitLast?_eq_none hsign]
    rw [hnone] at hhost
    exact hhost
  · have hread := huser.read
    obtain ⟨c, rest, hcons⟩ := List.exists_cons_of_ne_nil huser.given
    rw [htext, List.append_assoc, List.singleton_append, Text.splitLast?_append_cons hsign]
    rw [htext] at hhost
    rw [hcons] at hread hhost ⊢
    simp only [hread]
    exact hhost

end IsOf

end SchemaTypes.Url
