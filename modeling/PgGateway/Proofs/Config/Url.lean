import PgGateway.Config.Url
import PgGateway.Proofs.Text.Digits

set_option autoImplicit false

/-!
# Reading connection URLs

A URL is cut at its separators, some of them found from the left and some from the right. So the
parts that it is written from are read back, although a password may hold every separator.

## Main definitions

* `PgGateway.Config.UrlParts` — the parts of a URL; `UrlParts.text` is the URL.
* `PgGateway.Config.UrlParts.IsWritable` — parts that can be told apart in the URL.

## Main results

* `PgGateway.Config.Database.withUrl_eq_ok_iff` — the URLs that are read, and what they set.
* `PgGateway.Config.UrlParts.withUrl_text` — the parts of a URL are read back.
-/

namespace PgGateway.Config

/-! ## The scheme -/

/-- A character whose lower case is an ASCII character is one itself. -/
lemma toNat_lt_of_toLower {c : Char} (h : c.toLower.toNat < 128) : c.toNat < 128 := by
  delta Char.toLower at h
  split at h
  · next hupper =>
    have hle : c.val ≤ 'Z'.val := hupper.2
    exact Nat.lt_of_le_of_lt hle (by decide)
  · exact h

/-- The lower case of an ASCII text is that of its characters. -/
lemma lowerCase_eq_map {s : List Char} (h : ∀ c ∈ s, c.toNat < 128) :
    Text.lowerCase s = s.map Char.toLower := by
  have hafter : ∀ before, Text.lowerAfter before s = s.map Char.toLower := by
    induction s with
    | nil => intro before; rfl
    | cons c s ih =>
      intro before
      rw [List.forall_mem_cons] at h
      rw [Text.lowerAfter, if_neg (by omega), if_neg (by omega), Text.lowerChar, if_pos h.1,
        ih h.2, List.map_cons, List.singleton_append]
  exact hafter []

/-- The characters of a scheme have their lower case in the longer of the two names. -/
lemma toLower_mem_of_scheme {s : List Char}
    (h : s.map Char.toLower ∈ ["postgres".toList, "postgresql".toList]) {c : Char} (hc : c ∈ s) :
    c.toLower ∈ "postgresql".toList := by
  have hmem := List.mem_map_of_mem (f := Char.toLower) hc
  rcases List.mem_pair.mp h with hname | hname
  · rw [hname] at hmem
    have hsub : "postgres".toList ⊆ "postgresql".toList := by decide
    exact hsub hmem
  · rwa [hname] at hmem

/-- They are ASCII characters. -/
lemma toNat_lt_of_toLower_mem {c : Char} (h : c.toLower ∈ "postgresql".toList) :
    c.toNat < 128 := by
  have hname : ("postgresql".toList.all fun c => c.toNat < 128) = true := by decide
  exact toNat_lt_of_toLower (of_decide_eq_true (List.all_eq_true.mp hname _ h))

/-- None of them is a blank or a colon. -/
lemma isBlank_of_toLower_mem {c : Char} (h : c.toLower ∈ "postgresql".toList) :
    Text.isBlank c = false ∧ c ≠ ':' := by
  have hall : ∀ n < 128, (Char.ofNat n).toLower ∈ "postgresql".toList →
      Text.isBlank (Char.ofNat n) = false ∧ Char.ofNat n ≠ ':' := by
    decide +kernel
  simpa only [Char.ofNat_toNat] using
    hall c.toNat (toNat_lt_of_toLower_mem h) (by rwa [Char.ofNat_toNat])

/-- A scheme is known if it is one of the two names, in any case. -/
lemma isKnownScheme_of_toLower {scheme : String}
    (h : scheme.toList.map Char.toLower ∈ ["postgres".toList, "postgresql".toList]) :
    isKnownScheme scheme = true := by
  have hascii : ∀ c ∈ scheme.toList, c.toNat < 128 := fun c hc =>
    toNat_lt_of_toLower_mem (toLower_mem_of_scheme h hc)
  rw [isKnownScheme, Text.lowered, lowerCase_eq_map hascii]
  rcases List.mem_pair.mp h with hname | hname
  · rw [hname]
    rfl
  · rw [hname]
    rfl

/-! ## The cuts -/

/-- The text before the first separator. -/
lemma cutOnce_append {sep : Char} {left : List Char} (h : sep ∉ left) (right : List Char) :
    cutOnce sep (left ++ sep :: right) = (left, right) := by
  rw [cutOnce, Text.cutFirst_eq_some.mpr ⟨rfl, h⟩, Option.getD_some]

/-- A text without separators is not cut. -/
lemma cutOnce_eq_self {sep : Char} {s : List Char} (h : sep ∉ s) : cutOnce sep s = (s, []) := by
  rw [cutOnce, Text.cutFirst_eq_none.mpr h, Option.getD_none]

/-- The end of a URL before its last slash is a host without a colon, or one before a port. -/
theorem hostAndPort_eq_ok_iff {s : List Char} {host : String} {port : Nat} :
    hostAndPort s = .ok (host, port) ↔
      (':' ∉ s ∧ s = host.toList ∧ port = defaultPort) ∨
        ∃ digits, s = host.toList ++ ':' :: digits ∧ ':' ∉ host.toList ∧
          portOf? digits = some port := by
  rw [hostAndPort]
  rcases hcut : Text.cutFirst [':'] s with _ | ⟨left, digits⟩
  · have hcolon := Text.cutFirst_eq_none.mp hcut
    simp only [Except.ok.injEq, Prod.mk.injEq]
    constructor
    · rintro ⟨rfl, rfl⟩
      exact .inl ⟨hcolon, String.toList_ofList.symm, rfl⟩
    · rintro (⟨-, rfl, rfl⟩ | ⟨digits, rfl, -⟩)
      · exact ⟨String.ofList_toList, rfl⟩
      · simp at hcolon
  · obtain ⟨rfl, hleft⟩ := Text.cutFirst_eq_some.mp hcut
    have hparts : (∃ digits', left ++ ':' :: digits = host.toList ++ ':' :: digits' ∧
        ':' ∉ host.toList ∧ portOf? digits' = some port) ↔
          String.ofList left = host ∧ portOf? digits = some port := by
      constructor
      · rintro ⟨digits', heq, hhost, hport⟩
        rw [Text.cutFirst_eq_some.mpr ⟨heq, hhost⟩] at hcut
        cases hcut
        exact ⟨String.ofList_toList, hport⟩
      · rintro ⟨rfl, hport⟩
        exact ⟨digits, by rw [String.toList_ofList], by rwa [String.toList_ofList], hport⟩
    rw [or_iff_right (by simp), hparts]
    dsimp only
    cases portOf? digits with
    | none => simp [badUrl]
    | some n => simp

namespace Database

variable {c d : Database}

/-- The user and the password are told apart at the first colon. -/
lemma withCredentials_append {username password : String} (h : ':' ∉ username.toList) :
    c.withCredentials (username.toList ++ ':' :: password.toList) =
      { c with username := username, password := password } := by
  rw [withCredentials, if_neg (by simp), cutOnce_append h]
  simp only [String.ofList_toList]

/-- The address stands behind the last at-sign, and the credentials before it; without an at-sign
all is the address. -/
lemma getD_cutLast_at_eq_iff {before credentials address : List Char} :
    (Text.cutLast '@' before).getD ([], before) = (credentials, address) ↔
      (before = credentials ++ '@' :: address ∨ credentials = [] ∧ before = address) ∧
        '@' ∉ address := by
  constructor
  · intro h
    rcases hcut : Text.cutLast '@' before with _ | ⟨left, right⟩
    · rw [hcut] at h
      cases h
      exact ⟨.inr ⟨rfl, rfl⟩, Text.cutLast_eq_none.mp hcut⟩
    · rw [hcut] at h
      cases h
      obtain ⟨hbefore, haddress⟩ := Text.cutLast_eq_some.mp hcut
      exact ⟨.inl hbefore, haddress⟩
  · rintro ⟨hbefore | ⟨rfl, rfl⟩, haddress⟩
    · rw [Text.cutLast_eq_some.mpr ⟨hbefore, haddress⟩, Option.getD_some]
    · rw [Text.cutLast_eq_none.mpr haddress, Option.getD_none]

/-- **What stands after the scheme.** The name of the database stands behind the last slash, up to a
question mark. If there is an at-sign before the slash, the host stands behind the last one, and the
credentials before it. -/
theorem withLocation_eq_ok_iff {location : List Char} :
    c.withLocation location = .ok d ↔
      ∃ before name credentials address host port,
        (location = before ++ '/' :: name ∧ '/' ∉ name) ∧
        ((before = credentials ++ '@' :: address ∨ credentials = [] ∧ before = address) ∧
          '@' ∉ address) ∧
        hostAndPort address = .ok (host, port) ∧
        d = { c.withCredentials credentials with
          database := String.ofList (cutOnce '?' name).1, host, port } := by
  rw [withLocation]
  constructor
  · intro h
    rcases hslash : Text.cutLast '/' location with _ | ⟨before, name⟩
    · rw [hslash] at h
      cases h
    · rcases hat : (Text.cutLast '@' before).getD ([], before) with ⟨credentials, address⟩
      rw [hslash] at h
      dsimp only at h
      rw [hat] at h
      dsimp only at h
      rcases haddress : hostAndPort address with e | ⟨host, port⟩
      · rw [haddress] at h
        cases h
      · rw [haddress] at h
        exact ⟨before, name, credentials, address, host, port, Text.cutLast_eq_some.mp hslash,
          getD_cutLast_at_eq_iff.mp hat, haddress, (Except.ok.inj h).symm⟩
  · rintro ⟨before, name, credentials, address, host, port, hslash, hat, haddress, rfl⟩
    rw [Text.cutLast_eq_some.mpr hslash]
    dsimp only
    rw [getD_cutLast_at_eq_iff.mpr hat]
    dsimp only
    rw [haddress]

/-- **The URLs that are read.** A URL is read exactly if, without the blanks around it, it has a
scheme that is known, and what stands behind the scheme can be read. -/
theorem withUrl_eq_ok_iff {url : String} :
    c.withUrl url = .ok d ↔
      ∃ scheme location, Text.cutFirst "://".toList (Text.trim url.toList) =
          some (scheme, location) ∧
        isKnownScheme (String.ofList scheme) = true ∧ c.withLocation location = .ok d := by
  rw [withUrl]
  rcases Text.cutFirst "://".toList (Text.trim url.toList) with _ | ⟨scheme, location⟩
  · simp [badUrl]
  · cases hscheme : isKnownScheme (String.ofList scheme) with
    | true => simp [hscheme]
    | false => simp [hscheme, badUrl]

end Database

/-! ## The parts -/

/-- The parts that a URL is written from. -/
structure UrlParts where
  /-- The scheme. -/
  scheme : String
  /-- The name of the user. -/
  username : String
  /-- The password of the user. -/
  password : String
  /-- The host. -/
  host : String
  /-- The port. -/
  port : Nat
  /-- The name of the database. -/
  database : String

namespace UrlParts

/-- The URL that is written from the parts. -/
def text (p : UrlParts) : String :=
  p.scheme ++ "://" ++ p.username ++ ":" ++ p.password ++ "@" ++ p.host ++ ":" ++ toString p.port ++
    "/" ++ p.database

/-- Whether parts can be told apart in the URL. A password may have any characters. -/
structure IsWritable (p : UrlParts) : Prop where
  /-- The scheme is one of the two names, in any case. -/
  scheme : p.scheme.toList.map Char.toLower ∈ ["postgres".toList, "postgresql".toList]
  /-- The name of the user has no colon. -/
  username : ':' ∉ p.username.toList
  /-- The host has no colon. -/
  colon : ':' ∉ p.host.toList
  /-- The host has no at-sign. -/
  sign : '@' ∉ p.host.toList
  /-- The port has sixteen bits. -/
  port : p.port < Nat.pow 2 16
  /-- The name of the database has no slash. -/
  slash : '/' ∉ p.database.toList
  /-- The name of the database has no question mark. -/
  query : '?' ∉ p.database.toList
  /-- The name of the database does not end in a blank. -/
  ending : p.database.toList.getLast?.any Text.isBlank = false

/-- What stands between the scheme and the last slash. -/
def authority (p : UrlParts) : List Char :=
  p.username.toList ++ ':' :: p.password.toList ++
    '@' :: (p.host.toList ++ ':' :: Nat.toDigits 10 p.port)

/-- The characters of the URL. -/
lemma toList_text (p : UrlParts) :
    p.text.toList =
      p.scheme.toList ++ ("://".toList ++ (p.authority ++ '/' :: p.database.toList)) := by
  simp [text, authority]

/-- There are no blanks around the URL. -/
lemma IsWritable.isTrimmed_text {p : UrlParts} (h : p.IsWritable) :
    Text.IsTrimmed p.text.toList := by
  rw [toList_text, ← List.append_assoc, ← List.append_assoc, Text.isTrimmed_append_cons (by rfl)]
  refine ⟨?_, h.ending⟩
  cases hscheme : p.scheme.toList with
  | nil => rfl
  | cons c s =>
    have hc : c ∈ p.scheme.toList := hscheme ▸ List.mem_cons_self
    exact (isBlank_of_toLower_mem (toLower_mem_of_scheme h.scheme hc)).1

/-- The URL is cut behind its scheme. -/
lemma IsWritable.cutFirst_text {p : UrlParts} (h : p.IsWritable) :
    Text.cutFirst "://".toList (Text.trim p.text.toList) =
      some (p.scheme.toList, p.authority ++ '/' :: p.database.toList) := by
  have hcolon : ':' ∉ p.scheme.toList := fun hmem =>
    (isBlank_of_toLower_mem (toLower_mem_of_scheme h.scheme hmem)).2 rfl
  rw [Text.trim_eq_self_iff.mpr h.isTrimmed_text, toList_text]
  exact Text.cutFirst_append_of_not_mem hcolon _

/-- **The parts of a URL.** The parts that a URL is written from are read back from it, whatever the
password, and the pool and the time limit stay as they are.

**Proof sketch.** The name of the database has no slash, and the host and the port have no at-sign,
so the last ones of both are those that were written; the first colon of the credentials and that of
the address are as well. -/
theorem withUrl_text {p : UrlParts} (h : p.IsWritable) (c : Database) :
    c.withUrl p.text = .ok { c with
      host := p.host, port := p.port, database := p.database, username := p.username,
      password := p.password } := by
  have haddress : '@' ∉ p.host.toList ++ ':' :: Nat.toDigits 10 p.port := by
    have hdigits : '@' ∉ Nat.toDigits 10 p.port := fun hmem =>
      absurd (Text.isDigits_toDigits p.port '@' hmem) (by decide)
    simp [h.sign, hdigits]
  have hport : hostAndPort (p.host.toList ++ ':' :: Nat.toDigits 10 p.port) =
      .ok (p.host, p.port) :=
    hostAndPort_eq_ok_iff.mpr (.inr ⟨_, rfl, h.colon, Text.unsigned?_toDigits h.port⟩)
  refine Database.withUrl_eq_ok_iff.mpr ⟨_, _, h.cutFirst_text, ?_,
    Database.withLocation_eq_ok_iff.mpr ⟨_, _, _, _, p.host, p.port, ⟨rfl, h.slash⟩,
      ⟨.inl rfl, haddress⟩, hport, ?_⟩⟩
  · rw [String.ofList_toList]
    exact isKnownScheme_of_toLower h.scheme
  · rw [Database.withCredentials_append h.username, cutOnce_eq_self h.query, String.ofList_toList]

/-- A password with every separator, and more at-signs and slashes before the host. -/
theorem withUrl_text_of_separators :
    let p : UrlParts := ⟨"PostgreSQL", "ops@eu/1", "://p@ss:/w?rd@/", "db.internal", 6543, "my db"⟩
    let c : Database := { username := "app", poolSize := 4, queryTimeout := .ofSeconds 5 }
    p.text = "PostgreSQL://ops@eu/1:://p@ss:/w?rd@/@db.internal:6543/my db" ∧ p.IsWritable ∧
      c.withUrl p.text = .ok ⟨"db.internal", 6543, "my db", "ops@eu/1", "://p@ss:/w?rd@/", 4,
        .ofSeconds 5⟩ := by
  intro p c
  have htext : p.text = "PostgreSQL://ops@eu/1:://p@ss:/w?rd@/@db.internal:6543/my db" := by
    decide +kernel
  have hwritable : p.IsWritable :=
    ⟨by decide +kernel, by decide, by decide, by decide, by decide, by decide, by decide,
      by decide +kernel⟩
  exact ⟨htext, hwritable, withUrl_text hwritable c⟩

end UrlParts

end PgGateway.Config
