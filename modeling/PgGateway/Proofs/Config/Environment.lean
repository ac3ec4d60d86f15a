import PgGateway.Config.Environment
import PgGateway.Proofs.Config.UrlGrammar
import PgGateway.Proofs.Outcome

set_option autoImplicit false

/-!
# Precedence in the environment

Eight variables of the environment set parts of a configuration, and one of them, the URL, sets up
to five parts. The variable of a part prevails over the URL, and the URL over what was there. Three
of the variables can be malformed, and then the environment cannot be read.

## Main definitions

* `PgGateway.Config.prevailing` — what prevails of a variable, a URL and what was there.
* `PgGateway.Config.Database.IsSettled` — the configuration that follows from these rules.
* `PgGateway.Config.Database.IsOverlay` — the configuration that the steps behind the URL lead to.
* `PgGateway.Config.Variable` — the variables of single parts; `Variable.part` is the part that a
  variable sets.
* `PgGateway.Config.AgreeExcept` — environments that differ at most in one variable.

## Main results

* `PgGateway.Config.Database.withEnvironment_eq_ok_iff_isSettled` — what is read follows the rules.
* `PgGateway.Config.Database.exists_withEnvironment_eq_error_iff` — when nothing can be read.
* `PgGateway.Config.Database.part_eq_of_agreeExcept` — a variable changes nothing but its part.
* `PgGateway.Config.Database.withEnvironment_precedence` — all three.
-/

namespace PgGateway.Config

/-- The value of a variable if it is set, or else what the URL gives, or else what was there. -/
def prevailing {α : Type} (own given : Option α) (present : α) : α :=
  own.getD (given.getD present)

/-- The variables that set one part of a configuration each. -/
inductive Variable where
  /-- For the host. -/
  | host
  /-- For the port. -/
  | port
  /-- For the name of the database. -/
  | database
  /-- For the name of the user. -/
  | username
  /-- For the password. -/
  | password
  /-- For the size of the pool. -/
  | poolSize
  /-- For the time limit. -/
  | queryTimeout
  deriving DecidableEq

namespace Variable

/-- The name of the variable. -/
def name : Variable → String
  | .host => "DATABASE_HOST"
  | .port => "DATABASE_PORT"
  | .database => "DATABASE_NAME"
  | .username => "DATABASE_USER"
  | .password => "DATABASE_PASSWORD"
  | .poolSize => "DATABASE_POOL_SIZE"
  | .queryTimeout => "DATABASE_QUERY_TIMEOUT_MS"

/-- No two variables have the same name. -/
lemma name_injective {v w : Variable} (h : v.name = w.name) : v = w := by
  cases v <;> cases w <;> simp_all [name]

/-- What the variable sets: a text, a number or a length of time. -/
def Part : Variable → Type
  | .host => String
  | .port => Nat
  | .database => String
  | .username => String
  | .password => String
  | .poolSize => Nat
  | .queryTimeout => Span

/-- The part of a configuration that the variable sets. -/
def part (c : Database) : (v : Variable) → v.Part
  | .host => c.host
  | .port => c.port
  | .database => c.database
  | .username => c.username
  | .password => c.password
  | .poolSize => c.poolSize
  | .queryTimeout => c.queryTimeout

end Variable

/-- Whether two environments differ at most in one variable. -/
def AgreeExcept (v : Variable) (env env' : Environment) : Prop :=
  ∀ name ≠ v.name, env' name = env name

namespace Database

variable {c d d' : Database} {env env' : Environment}

/-! ## One variable at a time -/

/-- The port is the number that its variable denotes; without the variable it stays. -/
lemma portSetting_eq_ok_iff {present port : Nat} :
    portSetting env present = .ok port ↔
      (∀ value, env "DATABASE_PORT" = some value → Denotes (Nat.pow 2 16) value port) ∧
        (env "DATABASE_PORT" = none → port = present) := by
  unfold portSetting
  cases env "DATABASE_PORT" with
  | none => simp [eq_comm]
  | some value =>
    simp only [Option.some.injEq, forall_eq', reduceCtorEq, false_implies, and_true]
    rw [← unsigned?_eq_some_iff_denotes, ← portOf?]
    cases portOf? value.toList with
    | none => simp
    | some n => simp

/-- The time limit is the number of milliseconds that its variable denotes; without the variable it
stays. -/
lemma timeoutSetting_eq_ok_iff {present timeout : Span} :
    timeoutSetting env present = .ok timeout ↔
      (∀ value, env "DATABASE_QUERY_TIMEOUT_MS" = some value →
        ∃ n, Denotes (Nat.pow 2 64) value n ∧ timeout = Span.ofMillis n) ∧
      (env "DATABASE_QUERY_TIMEOUT_MS" = none → timeout = present) := by
  unfold timeoutSetting
  cases env "DATABASE_QUERY_TIMEOUT_MS" with
  | none => simp [eq_comm]
  | some value =>
    simp only [Option.some.injEq, forall_eq', reduceCtorEq, false_implies, and_true,
      ← unsigned?_eq_some_iff_denotes]
    cases Text.unsigned? (Nat.pow 2 64) value.toList with
    | none => simp
    | some n => simp [eq_comm]

/-- The size of the pool is the number that its variable denotes, or the usual size if the variable
denotes none; without the variable it stays. -/
lemma poolSizeSetting_eq_iff {present size : Nat} :
    poolSizeSetting env present = size ↔
      (∀ value, env "DATABASE_POOL_SIZE" = some value → Denotes (Nat.pow 2 64) value size ∨
        (∀ n, ¬ Denotes (Nat.pow 2 64) value n) ∧ size = defaultPoolSize) ∧
      (env "DATABASE_POOL_SIZE" = none → size = present) := by
  unfold poolSizeSetting
  cases env "DATABASE_POOL_SIZE" with
  | none => simp [eq_comm]
  | some value =>
    simp only [Option.some.injEq, forall_eq', reduceCtorEq, false_implies, and_true,
      ← unsigned?_eq_some_iff_denotes]
    cases Text.unsigned? (Nat.pow 2 64) value.toList with
    | none => simp [eq_comm]
    | some n => simp

/-- The URL, if it is set, sets its parts. -/
lemma withUrlOf_eq_ok_iff :
    c.withUrlOf env = .ok d ↔
      ∃ u? : Option Url, (env "DATABASE_URL").map (fun url => Text.trim url.toList) =
        u?.map Url.chars ∧ d = u?.elim c (·.settingIn c) := by
  unfold withUrlOf
  cases env "DATABASE_URL" with
  | none => simp [eq_comm]
  | some url =>
    dsimp only
    constructor
    · intro h
      obtain ⟨u, hu⟩ := isUrl_of_withUrl h
      rw [Url.withUrl_of_chars hu] at h
      exact ⟨some u, congrArg some hu, (Except.ok.inj h).symm⟩
    · rintro ⟨_ | u, hu, rfl⟩
      · cases hu
      · exact Url.withUrl_of_chars (Option.some.inj hu) c

/-! ## All variables -/

/-- The parts of a configuration are settled by the rules of precedence, where `u?` is the URL of
the environment, if there is one. -/
structure IsSettled (c : Database) (env : Environment) (u? : Option Url) (d : Database) : Prop where
  /-- The URL is the one of the environment, without the blanks around it. -/
  url : (env "DATABASE_URL").map (fun url => Text.trim url.toList) = u?.map Url.chars
  /-- The host is that of its variable, of the URL, or the one before. Every URL gives a host and a
  database, which may be empty texts. -/
  host : d.host = prevailing (env "DATABASE_HOST") (u?.map Url.host) c.host
  /-- So is the name of the database. -/
  database : d.database = prevailing (env "DATABASE_NAME") (u?.map Url.database) c.database
  /-- So is the user, if the URL gives one. -/
  username : d.username = prevailing (env "DATABASE_USER")
    (u?.bind fun u => u.login.map Prod.fst) c.username
  /-- So is the password, which is empty if the URL gives a user without one. -/
  password : d.password = prevailing (env "DATABASE_PASSWORD")
    (u?.bind fun u => u.login.map Prod.snd) c.password
  /-- The port is the number that its variable denotes. -/
  port : ∀ value, env "DATABASE_PORT" = some value → Denotes (Nat.pow 2 16) value d.port
  /-- Without the variable it is that of the URL, or the one before. -/
  port_given : env "DATABASE_PORT" = none → d.port = prevailing none (u?.map Url.portNumber) c.port
  /-- The size of the pool is the number that its variable denotes, or the usual one. -/
  poolSize : ∀ value, env "DATABASE_POOL_SIZE" = some value →
    Denotes (Nat.pow 2 64) value d.poolSize ∨
      (∀ n, ¬ Denotes (Nat.pow 2 64) value n) ∧ d.poolSize = defaultPoolSize
  /-- Without the variable it is the one before. -/
  poolSize_present : env "DATABASE_POOL_SIZE" = none → d.poolSize = c.poolSize
  /-- The time limit is the number of milliseconds that its variable denotes. -/
  queryTimeout : ∀ value, env "DATABASE_QUERY_TIMEOUT_MS" = some value →
    ∃ n, Denotes (Nat.pow 2 64) value n ∧ d.queryTimeout = Span.ofMillis n
  /-- Without the variable it is the one before. -/
  queryTimeout_present : env "DATABASE_QUERY_TIMEOUT_MS" = none → d.queryTimeout = c.queryTimeout

/-- What the variables of single parts make of a configuration `b`, which the URL has left. -/
structure IsOverlay (b : Database) (env : Environment) (d : Database) : Prop where
  /-- The port can be read. -/
  port : portSetting env b.port = .ok d.port
  /-- The time limit can be read. -/
  queryTimeout : timeoutSetting env b.queryTimeout = .ok d.queryTimeout
  /-- The host is that of its variable, or the one before. -/
  host : d.host = setting env "DATABASE_HOST" b.host
  /-- So is the name of the database. -/
  database : d.database = setting env "DATABASE_NAME" b.database
  /-- So is the user. -/
  username : d.username = setting env "DATABASE_USER" b.username
  /-- So is the password. -/
  password : d.password = setting env "DATABASE_PASSWORD" b.password
  /-- The size of the pool is read without failure. -/
  poolSize : d.poolSize = poolSizeSetting env b.poolSize

/-- An environment is read in two steps: first the URL, and then the variables of single parts. -/
lemma withEnvironment_eq_ok_iff :
    c.withEnvironment env = .ok d ↔ ∃ b, c.withUrlOf env = .ok b ∧ IsOverlay b env d := by
  unfold withEnvironment
  simp only [bind_eq_ok_iff]
  constructor
  · rintro ⟨b, hb, port, hport, timeout, htimeout, h⟩
    cases h
    exact ⟨b, hb, hport, htimeout, rfl, rfl, rfl, rfl, rfl⟩
  · rintro ⟨b, hb, hport, htimeout, hhost, hdatabase, husername, hpassword, hsize⟩
    refine ⟨b, hb, _, hport, _, htimeout, congrArg Except.ok ?_⟩
    obtain ⟨host, port, database, username, password, poolSize, queryTimeout⟩ := d
    simp_all

/-- The rules are what the steps of the reader say of the configuration that the URL leaves. -/
lemma isSettled_iff {u? : Option Url} :
    IsSettled c env u? d ↔
      (env "DATABASE_URL").map (fun url => Text.trim url.toList) = u?.map Url.chars ∧
        IsOverlay (u?.elim c (·.settingIn c)) env d := by
  -- with a URL and without one, each rule is a step by definition
  rcases u? with _ | u
  all_goals
    constructor
    · intro h
      exact ⟨h.url, portSetting_eq_ok_iff.mpr ⟨h.port, h.port_given⟩,
        timeoutSetting_eq_ok_iff.mpr ⟨h.queryTimeout, h.queryTimeout_present⟩, h.host, h.database,
        h.username, h.password, (poolSizeSetting_eq_iff.mpr ⟨h.poolSize, h.poolSize_present⟩).symm⟩
    · rintro ⟨hurl, h⟩
      obtain ⟨hport, hportGiven⟩ := portSetting_eq_ok_iff.mp h.port
      obtain ⟨htimeout, htimeoutPresent⟩ := timeoutSetting_eq_ok_iff.mp h.queryTimeout
      obtain ⟨hsize, hsizePresent⟩ := poolSizeSetting_eq_iff.mp h.poolSize.symm
      exact ⟨hurl, h.host, h.database, h.username, h.password, hport, hportGiven, hsize,
        hsizePresent, htimeout, htimeoutPresent⟩

/-- **Precedence.** What is read from an environment is settled by the rules, and what is settled by
them is read. -/
theorem withEnvironment_eq_ok_iff_isSettled :
    c.withEnvironment env = .ok d ↔ ∃ u? : Option Url, IsSettled c env u? d := by
  rw [withEnvironment_eq_ok_iff]
  constructor
  · rintro ⟨b, hb, hoverlay⟩
    obtain ⟨u?, hurl, rfl⟩ := withUrlOf_eq_ok_iff.mp hb
    exact ⟨u?, isSettled_iff.mpr ⟨hurl, hoverlay⟩⟩
  · rintro ⟨u?, h⟩
    obtain ⟨hurl, hoverlay⟩ := isSettled_iff.mp h
    exact ⟨_, withUrlOf_eq_ok_iff.mpr ⟨u?, hurl, rfl⟩, hoverlay⟩

/-- The URL can be read unless it is set and does not follow the grammar. -/
lemma exists_withUrlOf_eq_ok_iff :
    (∃ b, c.withUrlOf env = .ok b) ↔ ∀ url, env "DATABASE_URL" = some url → IsUrl url := by
  unfold withUrlOf
  cases env "DATABASE_URL" with
  | none => simp
  | some url =>
    simp only [Option.some.injEq, forall_eq']
    constructor
    · rintro ⟨b, hb⟩
      exact isUrl_of_withUrl hb
    · rintro ⟨u, hu⟩
      exact ⟨_, Url.withUrl_of_chars hu c⟩

/-- The port can be read unless it is set and denotes no number. -/
lemma exists_portSetting_eq_ok_iff {present : Nat} :
    (∃ port, portSetting env present = .ok port) ↔
      ∀ value, env "DATABASE_PORT" = some value → ∃ n, Denotes (Nat.pow 2 16) value n := by
  simp only [portSetting_eq_ok_iff]
  cases env "DATABASE_PORT" with
  | none => simp
  | some value => simp

/-- The time limit can be read unless it is set and denotes no number. -/
lemma exists_timeoutSetting_eq_ok_iff {present : Span} :
    (∃ timeout, timeoutSetting env present = .ok timeout) ↔
      ∀ value, env "DATABASE_QUERY_TIMEOUT_MS" = some value →
        ∃ n, Denotes (Nat.pow 2 64) value n := by
  simp only [timeoutSetting_eq_ok_iff]
  cases env "DATABASE_QUERY_TIMEOUT_MS" with
  | none => simp
  | some value => simp

/-- An environment can be read unless its URL, its port or its time limit is malformed. -/
lemma exists_withEnvironment_eq_ok_iff :
    (∃ d, c.withEnvironment env = .ok d) ↔
      (∀ url, env "DATABASE_URL" = some url → IsUrl url) ∧
      (∀ value, env "DATABASE_PORT" = some value → ∃ n, Denotes (Nat.pow 2 16) value n) ∧
      ∀ value, env "DATABASE_QUERY_TIMEOUT_MS" = some value →
        ∃ n, Denotes (Nat.pow 2 64) value n := by
  constructor
  · rintro ⟨d, h⟩
    obtain ⟨b, hb, hoverlay⟩ := withEnvironment_eq_ok_iff.mp h
    exact ⟨exists_withUrlOf_eq_ok_iff.mp ⟨b, hb⟩,
      exists_portSetting_eq_ok_iff.mp ⟨_, hoverlay.port⟩,
      exists_timeoutSetting_eq_ok_iff.mp ⟨_, hoverlay.queryTimeout⟩⟩
  · rintro ⟨hurl, hport, htimeout⟩
    obtain ⟨b, hb⟩ := exists_withUrlOf_eq_ok_iff.mpr hurl
    obtain ⟨port, hport⟩ := exists_portSetting_eq_ok_iff.mpr hport
    obtain ⟨timeout, htimeout⟩ := exists_timeoutSetting_eq_ok_iff.mpr htimeout
    exact ⟨⟨setting env "DATABASE_HOST" b.host, port, setting env "DATABASE_NAME" b.database,
      setting env "DATABASE_USER" b.username, setting env "DATABASE_PASSWORD" b.password,
      poolSizeSetting env b.poolSize, timeout⟩, withEnvironment_eq_ok_iff.mpr
        ⟨b, hb, hport, htimeout, rfl, rfl, rfl, rfl, rfl⟩⟩

/-- **Failure.** Nothing can be read from an environment exactly if its URL, its port or its time
limit is set and malformed. -/
theorem exists_withEnvironment_eq_error_iff :
    (∃ e, c.withEnvironment env = .error e) ↔
      (∃ url, env "DATABASE_URL" = some url ∧ ¬ IsUrl url) ∨
      (∃ value, env "DATABASE_PORT" = some value ∧ ∀ n, ¬ Denotes (Nat.pow 2 16) value n) ∨
      ∃ value, env "DATABASE_QUERY_TIMEOUT_MS" = some value ∧
        ∀ n, ¬ Denotes (Nat.pow 2 64) value n := by
  rw [exists_eq_error_iff, exists_withEnvironment_eq_ok_iff]
  simp only [not_and_or, not_forall, exists_prop, not_exists]

/-- **Dependence.** A part depends only on its own variable, on the URL and on what was there. -/
theorem part_eq_of_eq {v : Variable} (hurl : env' "DATABASE_URL" = env "DATABASE_URL")
    (hv : env' v.name = env v.name) (h : c.withEnvironment env = .ok d)
    (h' : c.withEnvironment env' = .ok d') : v.part d' = v.part d := by
  obtain ⟨b, hb, ho⟩ := withEnvironment_eq_ok_iff.mp h
  obtain ⟨b', hb', ho'⟩ := withEnvironment_eq_ok_iff.mp h'
  obtain rfl : b' = b := by
    rw [withUrlOf, hurl, ← withUrlOf, hb] at hb'
    exact (Except.ok.inj hb').symm
  cases v with
  | host =>
    show d'.host = d.host
    rw [ho'.host, ho.host]
    exact congrArg (Option.getD · b'.host) hv
  | port =>
    show d'.port = d.port
    have hvalue : env' "DATABASE_PORT" = env "DATABASE_PORT" := hv
    have hport := ho'.port
    rw [portSetting, hvalue, ← portSetting, ho.port] at hport
    exact (Except.ok.inj hport).symm
  | database =>
    show d'.database = d.database
    rw [ho'.database, ho.database]
    exact congrArg (Option.getD · b'.database) hv
  | username =>
    show d'.username = d.username
    rw [ho'.username, ho.username]
    exact congrArg (Option.getD · b'.username) hv
  | password =>
    show d'.password = d.password
    rw [ho'.password, ho.password]
    exact congrArg (Option.getD · b'.password) hv
  | poolSize =>
    show d'.poolSize = d.poolSize
    have hvalue : env' "DATABASE_POOL_SIZE" = env "DATABASE_POOL_SIZE" := hv
    rw [ho'.poolSize, ho.poolSize, poolSizeSetting, hvalue, ← poolSizeSetting]
  | queryTimeout =>
    show d'.queryTimeout = d.queryTimeout
    have hvalue : env' "DATABASE_QUERY_TIMEOUT_MS" = env "DATABASE_QUERY_TIMEOUT_MS" := hv
    have htimeout := ho'.queryTimeout
    rw [timeoutSetting, hvalue, ← timeoutSetting, ho.queryTimeout] at htimeout
    exact (Except.ok.inj htimeout).symm

/-- **Frame.** A variable changes nothing but the part that it sets. -/
theorem part_eq_of_agreeExcept {v w : Variable} (hagree : AgreeExcept v env env') (hne : w ≠ v)
    (h : c.withEnvironment env = .ok d) (h' : c.withEnvironment env' = .ok d') :
    w.part d' = w.part d := by
  have hurl : "DATABASE_URL" ≠ v.name := by
    cases v <;> decide
  exact part_eq_of_eq (hagree _ hurl) (hagree _ fun heq => hne (Variable.name_injective heq)) h h'

/-- **Precedence in the environment.** An environment is read as a configuration exactly if the
parts of this are settled by the rules of precedence. It cannot be read exactly if its URL, its port
or its time limit is set and malformed. If two environments differ in a single variable, then what
is read from them differs at most in the part that this variable sets. -/
theorem withEnvironment_precedence (c : Database) (env : Environment) :
    (∀ d, c.withEnvironment env = .ok d ↔ ∃ u? : Option Url, IsSettled c env u? d) ∧
    ((∃ e, c.withEnvironment env = .error e) ↔
      (∃ url, env "DATABASE_URL" = some url ∧ ¬ IsUrl url) ∨
      (∃ value, env "DATABASE_PORT" = some value ∧ ∀ n, ¬ Denotes (Nat.pow 2 16) value n) ∨
      ∃ value, env "DATABASE_QUERY_TIMEOUT_MS" = some value ∧
        ∀ n, ¬ Denotes (Nat.pow 2 64) value n) ∧
    ∀ (v w : Variable) (env' : Environment) (d d' : Database), w ≠ v → AgreeExcept v env env' →
      c.withEnvironment env = .ok d → c.withEnvironment env' = .ok d' → w.part d' = w.part d :=
  ⟨fun _ => withEnvironment_eq_ok_iff_isSettled, exists_withEnvironment_eq_error_iff,
    fun _ _ _ _ _ hne hagree h h' => part_eq_of_agreeExcept hagree hne h h'⟩

/-- A URL with a user but no password, a port of its own beside it, and a size that is no number;
then a host of its own as well. -/
theorem withEnvironment_precedence_of_url :
    let c : Database := { password := "secret", poolSize := 4 }
    let table := [("DATABASE_URL", " postgresql://app@db:6543/orders?sslmode=disable"),
      ("DATABASE_PORT", "+05433"), ("DATABASE_POOL_SIZE", "many")]
    let env : Environment := fun name => table.lookup name
    let env' : Environment := fun name => (("DATABASE_HOST", "replica") :: table).lookup name
    let d : Database := ⟨"db", 5433, "orders", "app", "", 16, .ofSeconds 30⟩
    let d' : Database := { d with host := "replica" }
    c.withEnvironment env = .ok d ∧ (∃ u? : Option Url, IsSettled c env u? d) ∧
      Variable.password ≠ .host ∧ AgreeExcept .host env env' ∧ c.withEnvironment env' = .ok d' ∧
      Variable.password.part d' = Variable.password.part d := by
  intro c table env env' d d'
  have hd : c.withEnvironment env = .ok d := by decide +kernel
  have hd' : c.withEnvironment env' = .ok d' := by decide +kernel
  have hne : Variable.password ≠ .host := by decide
  have hagree : AgreeExcept .host env env' := by
    intro name hname
    have hhead : (name == "DATABASE_HOST") = false := by simpa [Variable.name] using hname
    show (("DATABASE_HOST", "replica") :: table).lookup name = table.lookup name
    rw [List.lookup_cons, hhead]
  obtain ⟨hread, -, hframe⟩ := withEnvironment_precedence c env
  exact ⟨hd, (hread d).mp hd, hne, hagree, hd', hframe _ _ _ _ _ hne hagree hd hd'⟩

end Database

end PgGateway.Config
