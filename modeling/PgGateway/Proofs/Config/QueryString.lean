import PgGateway.Proofs.Config.Url

set_option autoImplicit false

/-!
# Query strings

A URL may go on behind a question mark. The question mark is looked for only behind the last slash
of all, and only once the blanks around the URL are gone, so what stands behind it is without
effect only as long as it has no slash and no blanks stand before the question mark. With a slash in
it the URL is cut at another place, which is told from the number of slashes before the cut.

## Main definitions

* `PgGateway.Config.Database.slashes` — the slashes in the user, the password and the host.

## Main results

* `PgGateway.Config.Database.count_slash_of_withLocation` — all slashes of a URL but the last are
  kept.
* `PgGateway.Config.Database.withUrl_query_iff` — the query strings that are without effect.
-/

namespace PgGateway.Config

/-- A host keeps its slashes, and a port has none. -/
lemma count_slash_of_hostAndPort {s : List Char} {host : String} {port : Nat}
    (h : hostAndPort s = .ok (host, port)) : s.count '/' = host.toList.count '/' := by
  rcases hostAndPort_eq_ok_iff.mp h with ⟨-, rfl, -⟩ | ⟨digits, rfl, -, hport⟩
  · rfl
  · have hdigits : '/' ∉ digits := fun hmem => by
      rcases Text.mem_of_unsigned? hport hmem with heq | hdigit
      · cases heq
      · exact absurd hdigit (by decide)
    rw [List.count_append, List.count_cons_of_ne (by decide), List.count_eq_zero.mpr hdigits,
      Nat.add_zero]

/-- A text that is cut keeps the characters that are not the separator. -/
lemma count_cutOnce {c sep : Char} (h : sep ≠ c) (s : List Char) :
    (cutOnce sep s).1.count c + (cutOnce sep s).2.count c = s.count c := by
  by_cases hsep : sep ∈ s
  · obtain ⟨left, right, rfl, hleft⟩ := List.eq_append_cons_of_mem hsep
    rw [cutOnce_append hleft, List.count_append, List.count_cons_of_ne h]
  · rw [cutOnce_eq_self hsep]
    rfl

namespace Database

variable {c d : Database}

/-- The number of slashes in the user, the password and the host. -/
def slashes (d : Database) : Nat :=
  d.username.toList.count '/' + d.password.toList.count '/' + d.host.toList.count '/'

/-- Credentials keep their slashes, and without credentials there are none as before. -/
lemma slashes_withCredentials (huser : '/' ∉ c.username.toList)
    (hpassword : '/' ∉ c.password.toList) (credentials : List Char) :
    (c.withCredentials credentials).username.toList.count '/' +
      (c.withCredentials credentials).password.toList.count '/' = credentials.count '/' := by
  cases credentials with
  | nil => exact congrArg₂ Nat.add (List.count_eq_zero.mpr huser) (List.count_eq_zero.mpr hpassword)
  | cons a rest =>
    rw [withCredentials, if_neg (by simp)]
    simpa only [String.toList_ofList] using count_cutOnce (by decide) (a :: rest)

/-- **Slashes are kept.** If the user and the password of a configuration have no slash, then after
a URL is read they and the host have all the slashes that stand behind the scheme, but the last
one. -/
theorem count_slash_of_withLocation (huser : '/' ∉ c.username.toList)
    (hpassword : '/' ∉ c.password.toList) {location : List Char}
    (h : c.withLocation location = .ok d) : location.count '/' = d.slashes + 1 := by
  obtain ⟨before, name, credentials, address, host, port, ⟨rfl, hname⟩, ⟨hbefore, -⟩, hhost, rfl⟩ :=
    withLocation_eq_ok_iff.mp h
  have hcount : before.count '/' = credentials.count '/' + address.count '/' := by
    rcases hbefore with rfl | ⟨rfl, rfl⟩
    · rw [List.count_append, List.count_cons_of_ne (by decide)]
    · rw [List.count_nil, Nat.zero_add]
  rw [List.count_append, List.count_cons_self, List.count_eq_zero.mpr hname, hcount,
    count_slash_of_hostAndPort hhost, ← slashes_withCredentials huser hpassword credentials]
  rfl

/-- A URL that is cut behind a known scheme sets what stands there. -/
lemma withUrl_eq_withLocation {url : String} {scheme location : List Char}
    (hcut : Text.cutFirst "://".toList (Text.trim url.toList) = some (scheme, location))
    (hscheme : isKnownScheme (String.ofList scheme) = true) :
    c.withUrl url = c.withLocation location := by
  rw [withUrl, hcut]
  dsimp only
  rw [if_pos hscheme]

/-- What is put behind a URL without a question mark goes to the name of the database, up to a
question mark, if it has no slash. -/
lemma withLocation_append {location : List Char} (h : c.withLocation location = .ok d)
    (hquery : '?' ∉ location) {back q : List Char} (hslash : '/' ∉ back) (hback : '?' ∉ back)
    (hq : '/' ∉ q) :
    c.withLocation (location ++ (back ++ '?' :: q)) =
      .ok { d with database := d.database ++ String.ofList back } := by
  obtain ⟨before, name, credentials, address, host, port, ⟨rfl, hname⟩, hat, hhost, rfl⟩ :=
    withLocation_eq_ok_iff.mp h
  have hmark : '?' ∉ name := fun hmem => hquery (by simp [hmem])
  refine withLocation_eq_ok_iff.mpr ⟨before, name ++ back ++ '?' :: q, credentials, address, host,
    port, ⟨by simp, by simp [hname, hslash, hq]⟩, hat, hhost, ?_⟩
  rw [cutOnce_eq_self hmark, cutOnce_append (by simp [hmark, hback]), String.ofList_append]

/-- A URL that goes on behind a question mark is cut as the one before it, and the blanks at the end
of that one stay. -/
lemma exists_withUrl_query {u : String} (hu : '?' ∉ u.toList) (hd : c.withUrl u = .ok d) :
    ∃ location back, '?' ∉ location ∧ c.withLocation location = .ok d ∧
      (∀ a ∈ back, Text.isBlank a = true) ∧
      (back = [] ↔ u.toList.getLast?.any Text.isBlank = false) ∧
      ∀ q : String, q.toList.getLast?.any Text.isBlank = false →
        c.withUrl (u ++ "?" ++ q) = c.withLocation (location ++ (back ++ '?' :: q.toList)) := by
  obtain ⟨scheme, location, hcut, hscheme, hlocation⟩ := withUrl_eq_ok_iff.mp hd
  have hparts := Text.eq_append_of_cutFirst hcut
  obtain ⟨back, hblank, hback, hgoes⟩ :=
    Text.exists_trim_append_cons (by simp [hparts] : Text.trim u.toList ≠ [])
  refine ⟨location, back, ?_, hlocation, hblank, hback, fun q hq => ?_⟩
  · intro hmem
    rw [← Text.mem_trim (by rfl), hparts] at hu
    simp [hmem] at hu
  · refine withUrl_eq_withLocation ?_ hscheme
    have htext : (u ++ "?" ++ q).toList = u.toList ++ '?' :: q.toList := by simp
    rw [htext, hgoes (by rfl) hq]
    exact Text.cutFirst_append hcut _

/-- **Query strings without effect.** Take a URL without a question mark that is read, and a query
string that does not end in a blank. The URL is read with the query string as without it if the
query string has no slash and the URL does not end in a blank, and only then if the user and the
password of the configuration have no slash before the URL is read.

**Proof sketch.** Without slashes in the query string the last slash stays the last one, and what
comes to the name of the database are the blanks before the question mark
(`withLocation_append`). What is read the same has the same slashes in the user, the password and
the host, so the query string adds none (`count_slash_of_withLocation`). -/
theorem withUrl_query_iff {u : String} (hu : '?' ∉ u.toList) (hd : c.withUrl u = .ok d)
    {q : String} (hq : q.toList.getLast?.any Text.isBlank = false) :
    ('/' ∉ q.toList ∧ u.toList.getLast?.any Text.isBlank = false →
      c.withUrl (u ++ "?" ++ q) = .ok d) ∧
    ('/' ∉ c.username.toList → '/' ∉ c.password.toList → c.withUrl (u ++ "?" ++ q) = .ok d →
      '/' ∉ q.toList ∧ u.toList.getLast?.any Text.isBlank = false) := by
  obtain ⟨location, back, hquery, hlocation, hblank, hback, hread⟩ := exists_withUrl_query hu hd
  have hnot : ∀ {a : Char}, Text.isBlank a = false → a ∉ back := fun ha hmem => by
    rw [hblank _ hmem] at ha
    cases ha
  have happend := fun hslash => withLocation_append hlocation hquery (hnot (a := '/') (by rfl))
    (hnot (by rfl)) (q := q.toList) hslash
  rw [hread q hq, ← hback]
  constructor
  · rintro ⟨hslash, rfl⟩
    simpa using happend hslash
  · intro huser hpassword hsame
    -- the same user, password and host leave no room for a further slash
    have hslash : '/' ∉ q.toList := by
      have hcount := count_slash_of_withLocation huser hpassword hsame
      rw [← count_slash_of_withLocation huser hpassword hlocation, List.count_append,
        List.count_append, List.count_cons_of_ne (by decide)] at hcount
      exact List.count_eq_zero.mp (by omega)
    refine ⟨hslash, ?_⟩
    have hname : d.database ++ String.ofList back = d.database :=
      congrArg Database.database (Except.ok.inj ((happend hslash).symm.trans hsame))
    simpa using hname

/-- A query string with at-signs, colons and question marks, behind a URL with a blank before it. -/
theorem withUrl_query_iff_of_no_slash :
    let u := " postgresql://app@localhost/orders"
    let q := "sslmode=disable&options=a@b:c?"
    let d : Database := { username := "app", database := "orders" }
    '?' ∉ u.toList ∧ ({} : Database).withUrl u = .ok d ∧
      q.toList.getLast?.any Text.isBlank = false ∧
      ({} : Database).withUrl (u ++ "?" ++ q) = .ok d := by
  intro u q d
  have hu : '?' ∉ u.toList := by decide
  have hd : ({} : Database).withUrl u = .ok d := by decide +kernel
  have hq : q.toList.getLast?.any Text.isBlank = false := by decide +kernel
  exact ⟨hu, hd, hq, (withUrl_query_iff hu hd hq).1 ⟨by decide, by decide +kernel⟩⟩

/-- **Query strings with an effect.** A path in the query string gives another host and another
database, or a port that cannot be read, and a blank before the question mark stays in the name of
the database. -/
theorem withUrl_query_ne :
    let c : Database := {}
    let d : Database := { c with username := "app", database := "orders" }
    c.withUrl "postgres://app@localhost/orders" = .ok d ∧
      c.withUrl "postgres://app@localhost/orders?sslrootcert=/etc/ca.pem" =
        .ok { d with host := "localhost/orders?sslrootcert=/etc", database := "ca.pem" } ∧
      c.withUrl "postgres://app@localhost:5432/orders" = .ok d ∧
      c.withUrl "postgres://app@localhost:5432/orders?sslrootcert=/etc/ca.pem" =
        .error (.invalidDatabaseUrl "Invalid port") ∧
      c.withUrl "postgres://app@localhost/orders " = .ok d ∧
      c.withUrl "postgres://app@localhost/orders ?sslmode=disable" =
        .ok { d with database := "orders " } := by
  decide +kernel

end Database

end PgGateway.Config
