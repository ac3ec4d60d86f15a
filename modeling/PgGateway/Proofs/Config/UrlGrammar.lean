import PgGateway.Proofs.Config.Url

set_option autoImplicit false

/-!
# The grammar of connection URLs

A URL has a scheme, a host and a database, and it may have credentials before the host, a port
behind it and a query string at its end. The separators of the parts also occur inside them, so the
grammar says which part may have which; it is this that makes the cuts of the reader find the parts.
The texts that are read are those that follow the grammar, and the parts are what they set.

## Main definitions

* `PgGateway.Config.Denotes` — the numbers that texts denote.
* `PgGateway.Config.Url` — the URLs of the grammar; `Url.chars` is the text of one.
* `PgGateway.Config.Url.login` — the user and the password that a URL gives, if it gives them.
* `PgGateway.Config.Url.settingIn` — a configuration with the parts of a URL.
* `PgGateway.Config.IsUrl` — whether a text follows the grammar, without the blanks around it.

## Main results

* `PgGateway.Config.Url.withUrl_of_chars` — the text of a URL sets its parts.
* `PgGateway.Config.isUrl_of_withUrl` — what is read follows the grammar.
-/

namespace PgGateway.Config

/-! ## Numbers -/

/-- Whether a text denotes a number below a bound: it is the digits of the number, perhaps with
zeros before them, and perhaps behind a plus sign. -/
def Denotes (bound : Nat) (text : String) (n : Nat) : Prop :=
  ∃ digits, (text.toList = digits ∨ text.toList = '+' :: digits) ∧ digits ≠ [] ∧
    Text.digitsValue? 0 digits = some n ∧ n < bound

/-- The number that is read is the one that the text denotes. -/
theorem unsigned?_eq_some_iff_denotes {bound n : Nat} {text : String} :
    Text.unsigned? bound text.toList = some n ↔ Denotes bound text n := by
  rw [Text.unsigned?_eq_some]
  constructor
  · rintro ⟨digits, hplus | ⟨hbare, -⟩, hne, hvalue, hlt⟩
    · exact ⟨digits, .inr hplus, hne, hvalue, hlt⟩
    · exact ⟨digits, .inl hbare, hne, hvalue, hlt⟩
  · rintro ⟨digits, hbare | hplus, hne, hvalue, hlt⟩
    · refine ⟨digits, .inr ⟨hbare, fun hhead => ?_⟩, hne, hvalue, hlt⟩
      rw [hbare] at hhead
      exact absurd (Text.isDigits_of_digitsValue? hvalue '+' (List.mem_of_head? hhead)) (by decide)
    · exact ⟨digits, .inl hplus, hne, hvalue, hlt⟩

/-! ## Schemes -/

/-- The lower case of an ASCII character of a text is in the lower case of the text. -/
lemma toLower_mem_lowerCase {c : Char} (hc : c.toNat < 128) {s : List Char} (h : c ∈ s) :
    c.toLower ∈ Text.lowerCase s := by
  have hafter : ∀ before, c.toLower ∈ Text.lowerAfter before s := by
    induction s with
    | nil => cases h
    | cons d s ih =>
      intro before
      rw [Text.lowerAfter]
      apply List.mem_append.mpr
      rcases List.mem_cons.mp h with rfl | hmem
      · left
        rw [if_neg (by omega), if_neg (by omega), Text.lowerChar, if_pos hc]
        exact List.mem_singleton_self _
      · exact .inr (ih hmem _)
  exact hafter []

/-- There is no colon in a known scheme. -/
lemma colon_not_mem_of_isKnownScheme {scheme : String} (h : isKnownScheme scheme = true) :
    ':' ∉ scheme.toList := by
  intro hmem
  have hlower : ':' ∈ (Text.lowered scheme).toList := by
    rw [Text.lowered, String.toList_ofList]
    exact toLower_mem_lowerCase (c := ':') (by decide) hmem
  have hnames : Text.lowered scheme = "postgres" ∨ Text.lowered scheme = "postgresql" := by
    simpa [isKnownScheme] using h
  rcases hnames with hname | hname
  · rw [hname] at hlower
    exact absurd hlower (by decide)
  · rw [hname] at hlower
    exact absurd hlower (by decide)

/-! ## Parts behind a mark -/

/-- The text of a part that stands behind a mark, if there is such a part. -/
def marked (mark : Char) : Option String → List Char
  | none => []
  | some part => mark :: part.toList

/-- Every text is cut at the first mark, if it has one. -/
lemma exists_eq_append_marked (mark : Char) (s : List Char) :
    ∃ (left : String) (right : Option String), s = left.toList ++ marked mark right ∧
      mark ∉ left.toList := by
  by_cases hmem : mark ∈ s
  · obtain ⟨left, right, rfl, hleft⟩ := List.eq_append_cons_of_mem hmem
    exact ⟨String.ofList left, some (String.ofList right), by simp [marked], by simpa using hleft⟩
  · exact ⟨String.ofList s, none, by simp [marked], by simpa using hmem⟩

/-- The two sides of the first mark; without one the second is empty. -/
lemma cutOnce_append_marked {mark : Char} {left : String} (h : mark ∉ left.toList)
    (right : Option String) :
    cutOnce mark (left.toList ++ marked mark right) = (left.toList, (right.getD "").toList) := by
  cases right with
  | none =>
    rw [marked, List.append_nil, cutOnce_eq_self h]
    rfl
  | some right => exact cutOnce_append h right.toList

/-! ## URLs -/

/-- The connection URLs, by their parts. -/
structure Url where
  /-- The scheme. -/
  scheme : String
  /-- The user before the at-sign, and the password behind the first colon. -/
  credentials : Option (String × Option String)
  /-- The host. -/
  host : String
  /-- The text behind the colon of the host, and the port that it denotes. -/
  port : Option (String × Nat)
  /-- The name of the database. -/
  database : String
  /-- The text behind the question mark. -/
  query : Option String
  /-- The scheme is known. -/
  known : isKnownScheme scheme = true
  /-- The user has no colon. -/
  user_colon : ∀ c ∈ credentials, ':' ∉ c.1.toList
  /-- The host has no colon. -/
  host_colon : ':' ∉ host.toList
  /-- The host has no at-sign. -/
  host_sign : '@' ∉ host.toList
  /-- The port is a number of sixteen bits. -/
  port_denotes : ∀ p ∈ port, Denotes (Nat.pow 2 16) p.1 p.2
  /-- The name of the database has no slash. -/
  database_slash : '/' ∉ database.toList
  /-- The name of the database has no question mark. -/
  database_mark : '?' ∉ database.toList
  /-- The query string has no slash. -/
  query_slash : ∀ q ∈ query, '/' ∉ q.toList

namespace Url

/-- The text of the credentials without the at-sign. -/
def credentialsChars : Option (String × Option String) → List Char
  | none => []
  | some (user, password) => user.toList ++ marked ':' password

/-- The text of the host and the port. -/
def address (u : Url) : List Char :=
  u.host.toList ++ marked ':' (u.port.map Prod.fst)

/-- The text between the scheme and the last slash. -/
def authority (u : Url) : List Char :=
  match u.credentials with
  | none => u.address
  | some c => credentialsChars (some c) ++ '@' :: u.address

/-- The text of the URL. -/
def chars (u : Url) : List Char :=
  u.scheme.toList ++
    ("://".toList ++ (u.authority ++ '/' :: (u.database.toList ++ marked '?' u.query)))

/-- The port; without one it is the usual port. -/
def portNumber (u : Url) : Nat :=
  (u.port.map Prod.snd).getD defaultPort

/-- The user and the password that the URL gives; without a password it is empty. Credentials of
which nothing is written before the at-sign are none. -/
def login (u : Url) : Option (String × String) :=
  match u.credentials with
  | none => none
  | some (user, password) =>
    if user = "" ∧ password = none then none else some (user, password.getD "")

/-- The configuration with the parts of the URL. -/
def settingIn (u : Url) (c : Database) : Database :=
  { c with
    host := u.host
    port := u.portNumber
    database := u.database
    username := (u.login.map Prod.fst).getD c.username
    password := (u.login.map Prod.snd).getD c.password }

variable {u : Url} {c : Database}

/-- The credentials set the user and the password that the URL gives. -/
lemma withCredentials_credentialsChars (u : Url) (c : Database) :
    c.withCredentials (credentialsChars u.credentials) =
      { c with
        username := (u.login.map Prod.fst).getD c.username
        password := (u.login.map Prod.snd).getD c.password } := by
  unfold login
  rcases hcredentials : u.credentials with _ | ⟨user, password⟩
  · rfl
  · have hcut := cutOnce_append_marked (u.user_colon _ hcredentials) password
    unfold Database.withCredentials
    rw [credentialsChars, hcut]
    by_cases hempty : user = "" ∧ password = none
    · obtain ⟨rfl, rfl⟩ := hempty
      simp [marked]
    · have hne : (user.toList ++ marked ':' password).isEmpty = false := by
        rw [not_and_or] at hempty
        rcases hempty with hname | hpassword
        · simp [hname]
        · obtain ⟨word, rfl⟩ := Option.ne_none_iff_exists'.mp hpassword
          simp [marked]
      simp [hne, hempty]

/-- The host and the port are read from the address, which has no at-sign. -/
lemma hostAndPort_address (u : Url) :
    hostAndPort u.address = .ok (u.host, u.portNumber) ∧ '@' ∉ u.address := by
  rw [hostAndPort_eq_ok_iff]
  unfold address portNumber
  rcases hport : u.port with _ | ⟨text, n⟩
  · simp [marked, u.host_colon, u.host_sign]
  · have hread : portOf? text.toList = some n :=
      unsigned?_eq_some_iff_denotes.mpr (u.port_denotes _ hport)
    refine ⟨.inr ⟨text.toList, rfl, u.host_colon, hread⟩, ?_⟩
    have htext : '@' ∉ text.toList := by
      intro hmem
      rcases Text.mem_of_unsigned? hread hmem with heq | hdigit
      · cases heq
      · exact absurd hdigit (by decide)
    simp [marked, u.host_sign, htext]

/-- The text of the URL without blanks around it sets its parts. -/
theorem withUrl_of_chars {url : String} (h : Text.trim url.toList = u.chars) (c : Database) :
    c.withUrl url = .ok (u.settingIn c) := by
  obtain ⟨haddress, hsign⟩ := hostAndPort_address u
  have hcut : Text.cutFirst "://".toList (Text.trim url.toList) =
      some (u.scheme.toList, u.authority ++ '/' :: (u.database.toList ++ marked '?' u.query)) := by
    rw [h, chars]
    exact Text.cutFirst_append_of_not_mem (colon_not_mem_of_isKnownScheme u.known) _
  have hslash : '/' ∉ u.database.toList ++ marked '?' u.query := by
    rcases hquery : u.query with _ | query
    · simpa [marked] using u.database_slash
    · simpa [marked] using ⟨u.database_slash, u.query_slash query hquery⟩
  have hauthority : u.authority = credentialsChars u.credentials ++ '@' :: u.address ∨
      credentialsChars u.credentials = [] ∧ u.authority = u.address := by
    unfold authority
    rcases u.credentials with _ | credentials
    · exact .inr ⟨rfl, rfl⟩
    · exact .inl rfl
  refine Database.withUrl_eq_ok_iff.mpr ⟨_, _, hcut, ?_, Database.withLocation_eq_ok_iff.mpr
    ⟨_, _, _, _, u.host, u.portNumber, ⟨rfl, hslash⟩, ⟨hauthority, hsign⟩, haddress, ?_⟩⟩
  · rw [String.ofList_toList]
    exact u.known
  · rw [cutOnce_append_marked u.database_mark, withCredentials_credentialsChars,
      String.ofList_toList]
    rfl

end Url

/-- Whether a text follows the grammar of URLs, without the blanks around it. -/
def IsUrl (url : String) : Prop :=
  ∃ u : Url, Text.trim url.toList = u.chars

/-- **What is read follows the grammar.** The parts are found by cutting where the reader cuts. -/
theorem isUrl_of_withUrl {c d : Database} {url : String} (h : c.withUrl url = .ok d) :
    IsUrl url := by
  obtain ⟨scheme, location, hcut, hscheme, hlocation⟩ := Database.withUrl_eq_ok_iff.mp h
  obtain ⟨before, name, credentials, address, host, port, ⟨rfl, hname⟩, ⟨hbefore, hsign⟩, hhost,
    -⟩ := Database.withLocation_eq_ok_iff.mp hlocation
  obtain ⟨database, query, rfl, hmark⟩ := exists_eq_append_marked '?' name
  obtain ⟨user, password, rfl, huser⟩ := exists_eq_append_marked ':' credentials
  have hslash : '/' ∉ database.toList ∧ ∀ q ∈ query, '/' ∉ q.toList := by
    rcases query with _ | query
    · simpa [marked] using hname
    · simpa [marked] using hname
  obtain ⟨text, hport, hhostChars, hcolon⟩ : ∃ text : Option (String × Nat),
      (∀ p ∈ text, Denotes (Nat.pow 2 16) p.1 p.2) ∧
      address = host.toList ++ marked ':' (text.map Prod.fst) ∧ ':' ∉ host.toList := by
    rcases hostAndPort_eq_ok_iff.mp hhost with ⟨hcolon, rfl, -⟩ | ⟨digits, rfl, hcolon, hdigits⟩
    · exact ⟨none, by simp, by simp [marked], hcolon⟩
    · refine ⟨some (String.ofList digits, port), ?_, by simp [marked], hcolon⟩
      intro p hp
      obtain rfl : (String.ofList digits, port) = p := Option.some.inj hp
      rw [← unsigned?_eq_some_iff_denotes, String.toList_ofList]
      exact hdigits
  have hhostSign : '@' ∉ host.toList := by
    intro hmem
    rw [hhostChars] at hsign
    exact hsign (List.mem_append_left _ hmem)
  have hurl := Text.eq_append_of_cutFirst hcut
  rcases hbefore with rfl | ⟨-, rfl⟩
  · refine ⟨⟨String.ofList scheme, some (user, password), host, text, database, query, hscheme,
      by simpa using huser, hcolon, hhostSign, hport, hslash.1, hmark, hslash.2⟩, ?_⟩
    rw [hurl, hhostChars]
    simp [Url.chars, Url.authority, Url.address, Url.credentialsChars]
  · refine ⟨⟨String.ofList scheme, none, host, text, database, query, hscheme, by simp, hcolon,
      hhostSign, hport, hslash.1, hmark, hslash.2⟩, ?_⟩
    rw [hurl, hhostChars]
    simp [Url.chars, Url.authority, Url.address]

end PgGateway.Config
