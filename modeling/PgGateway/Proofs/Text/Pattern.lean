import Mathlib.Data.List.Basic

set_option autoImplicit false

/-!
# Regular expressions that prefer a match

A regular expression with alternatives and repetitions may match a text in several ways. It prefers
an earlier alternative to a later one, and says of each repetition whether it rather goes on or
rather stops. So the ways have an order, and the first of them is the match.

## Main definitions

* `PgGateway.Text.Pattern` — regular expressions.
* `PgGateway.Text.Pattern.rests` — what every match leaves of a text, the preferred ones first.
* `PgGateway.Text.Pattern.first?` — what the match leaves.

## Main results

* `PgGateway.Text.Pattern.rests_many` — a repetition stops, or goes on behind what it has matched.
* `PgGateway.Text.Pattern.first?_many` — one that rather goes on does so as long as it can.
-/

namespace PgGateway.Text

/-- A regular expression. -/
inductive Pattern where
  /-- The empty text. -/
  | empty
  /-- A character of a kind. -/
  | one (kind : Char → Bool)
  /-- One behind the other. -/
  | seq (p q : Pattern)
  /-- One or the other, preferably the first. -/
  | or (p q : Pattern)
  /-- Any number of times, preferably many if it is greedy, and few if it is not. -/
  | many (greedy : Bool) (p : Pattern)

namespace Pattern

/-- What is left of a text behind at most `fuel` matches that each take something. -/
def runs (greedy : Bool) (f : List Char → List (List Char)) (fuel : Nat) (s : List Char) :
    List (List Char) :=
  match fuel with
  | 0 => [s]
  | fuel + 1 =>
    let longer := ((f s).filter fun t => t.length < s.length).flatMap (runs greedy f fuel)
    if greedy then longer ++ [s] else s :: longer

/-- What the matches at the beginning of a text leave of it, the preferred ones first. -/
def rests : Pattern → List Char → List (List Char)
  | empty, s => [s]
  | one _, [] => []
  | one kind, c :: s => if kind c then [s] else []
  | seq p q, s => (p.rests s).flatMap q.rests
  | or p q, s => p.rests s ++ q.rests s
  | many greedy p, s => runs greedy p.rests s.length s

/-- What the match at the beginning of a text leaves of it. -/
def first? (p : Pattern) (s : List Char) : Option (List Char) :=
  (p.rests s).head?

/-- A given character. -/
def char (c : Char) : Pattern :=
  .one (· == c)

/-- Whether every match takes something. -/
def Takes (p : Pattern) : Prop :=
  ∀ s, ∀ t ∈ p.rests s, t.length < s.length

variable {p q : Pattern} {s t : List Char}

/-! ## What takes something -/

/-- What is left is no longer than the text. -/
lemma length_le_of_mem_runs {greedy : Bool} {f : List Char → List (List Char)} {fuel : Nat}
    (h : t ∈ runs greedy f fuel s) : t.length ≤ s.length := by
  induction fuel generalizing s with
  | zero => exact Nat.le_of_eq (congrArg List.length (List.mem_singleton.mp h))
  | succ fuel ih =>
    have hcases : t = s ∨ ∃ u ∈ f s, u.length < s.length ∧ t ∈ runs greedy f fuel u := by
      cases greedy <;> simpa [runs, or_comm, and_assoc] using h
    rcases hcases with rfl | ⟨u, -, hlt, hmem⟩
    · exact Nat.le_refl _
    · exact Nat.le_trans (ih hmem) (Nat.le_of_lt hlt)

/-- A match leaves no more than there is. -/
lemma length_le_of_mem_rests (h : t ∈ p.rests s) : t.length ≤ s.length := by
  induction p generalizing s t with
  | empty => exact Nat.le_of_eq (congrArg List.length (List.mem_singleton.mp h))
  | one kind =>
    cases s with
    | nil => cases h
    | cons c s =>
      rw [rests] at h
      split at h
      · rw [List.mem_singleton.mp h]
        exact Nat.le_succ _
      · cases h
  | seq p q ihp ihq =>
    obtain ⟨u, hu, ht⟩ := List.mem_flatMap.mp h
    exact Nat.le_trans (ihq ht) (ihp hu)
  | or p q ihp ihq => exact (List.mem_append.mp h).elim ihp ihq
  | many greedy p ih => exact length_le_of_mem_runs h

/-- A character is taken. -/
lemma takes_one (kind : Char → Bool) : (one kind).Takes := by
  intro s t h
  cases s with
  | nil => cases h
  | cons c s =>
    rw [rests] at h
    split at h
    · rw [List.mem_singleton.mp h]
      exact Nat.lt_succ_self _
    · cases h

/-- What begins with something that takes something takes something. -/
lemma Takes.seq (hp : p.Takes) (q : Pattern) : (p.seq q).Takes := by
  intro s t h
  obtain ⟨u, hu, ht⟩ := List.mem_flatMap.mp h
  exact Nat.lt_of_le_of_lt (length_le_of_mem_rests ht) (hp s u hu)

/-- One of two that take something takes something. -/
lemma Takes.or (hp : p.Takes) (hq : q.Takes) : (p.or q).Takes := by
  intro s t h
  exact (List.mem_append.mp h).elim (hp s t) (hq s t)

/-! ## Repetitions -/

/-- How often a repetition may go on does not matter if it may as often as there are characters. -/
lemma runs_congr {greedy : Bool} {f : List Char → List (List Char)} {m n : Nat}
    (hm : s.length ≤ m) (hn : s.length ≤ n) : runs greedy f m s = runs greedy f n s := by
  have hstop : ∀ n, runs greedy f n [] = [[]] := by
    intro n
    cases n with
    | zero => rfl
    | succ n => cases greedy <;> simp [runs]
  induction m generalizing n s with
  | zero =>
    obtain rfl := List.eq_nil_of_length_eq_zero (Nat.eq_zero_of_le_zero hm)
    rw [hstop, hstop]
  | succ m ih =>
    cases n with
    | zero =>
      obtain rfl := List.eq_nil_of_length_eq_zero (Nat.eq_zero_of_le_zero hn)
      rw [hstop, hstop]
    | succ n =>
      have hlonger : ((f s).filter fun t => t.length < s.length).flatMap (runs greedy f m) =
          ((f s).filter fun t => t.length < s.length).flatMap (runs greedy f n) := by
        refine List.flatMap_congr fun t ht => ih ?_ ?_
        all_goals
          have hlt : t.length < s.length := of_decide_eq_true (List.mem_filter.mp ht).2
          omega
      rw [runs, runs, hlonger]

/-- **A repetition.** It stops, or goes on behind a match that takes something; which of them comes
first is for the repetition to say. -/
theorem rests_many (hp : p.Takes) (greedy : Bool) (s : List Char) :
    (many greedy p).rests s =
      if greedy then (p.rests s).flatMap (many greedy p).rests ++ [s]
      else s :: (p.rests s).flatMap (many greedy p).rests := by
  cases s with
  | nil =>
    have hnone : p.rests [] = [] :=
      List.eq_nil_iff_forall_not_mem.mpr fun t ht => absurd (hp [] t ht) (Nat.not_lt_zero _)
    rw [hnone]
    cases greedy <;> rfl
  | cons c s =>
    have hall : (p.rests (c :: s)).filter (fun t => t.length < (c :: s).length) =
        p.rests (c :: s) :=
      List.filter_eq_self.mpr fun t ht => decide_eq_true (hp _ t ht)
    have hfuel : (p.rests (c :: s)).flatMap (runs greedy p.rests s.length) =
        (p.rests (c :: s)).flatMap (many greedy p).rests :=
      List.flatMap_congr fun t ht =>
        runs_congr (Nat.le_of_lt_succ (hp _ t ht)) (Nat.le_refl _)
    rw [rests, List.length_cons, runs, hall, hfuel]

/-! ## The match -/

/-- An alternative is only taken if the ones before it do not match. -/
lemma first?_or (p q : Pattern) (s : List Char) :
    (p.or q).first? s = (p.first? s).or (q.first? s) :=
  List.head?_append

/-- The first way to match the first part for which the second part matches behind it. -/
lemma first?_seq (p q : Pattern) (s : List Char) :
    (p.seq q).first? s = (p.rests s).findSome? q.first? :=
  List.head?_flatMap

/-- If the second part matches behind the match of the first part, that is the match. -/
lemma first?_seq_of_eq_some {u : List Char} (hp : p.first? s = some t)
    (hq : q.first? t = some u) : (p.seq q).first? s = some u := by
  obtain ⟨rests, hrests⟩ := List.head?_eq_some_iff.mp hp
  rw [first?_seq, hrests, List.findSome?_cons, hq]

/-- A character is read if it is of the kind. -/
@[simp] lemma first?_one_cons (kind : Char → Bool) (c : Char) (s : List Char) :
    (one kind).first? (c :: s) = if kind c then some s else none := by
  rw [first?, rests]
  split <;> rfl

/-- Behind a character the rest is read. -/
@[simp] lemma first?_one_seq_cons (kind : Char → Bool) (q : Pattern) (c : Char) (s : List Char) :
    ((one kind).seq q).first? (c :: s) = if kind c then q.first? s else none := by
  rw [first?_seq, rests]
  split
  · rw [List.findSome?_singleton]
  · rfl

/-- A text that does not begin with a given character does not match it. -/
lemma first?_char_eq_none {c : Char} (h : ∀ t, s ≠ c :: t) : (char c).first? s = none := by
  cases s with
  | nil => rfl
  | cons d s =>
    rw [char, first?_one_cons, if_neg]
    intro hd
    exact h s (by rw [beq_iff_eq.mp hd])

/-- A text does not match if the rest does not match behind the character that it has to begin
with. -/
lemma first?_char_seq_eq_none {c : Char} (h : ∀ t, s = c :: t → q.first? t = none) :
    ((char c).seq q).first? s = none := by
  cases s with
  | nil => rfl
  | cons d s =>
    rw [char, first?_one_seq_cons]
    split
    · next hd => exact h s (by rw [beq_iff_eq.mp hd])
    · rfl

/-- **A greedy repetition.** It goes on behind the match as long as there is one. -/
theorem first?_many (hp : p.Takes) (s : List Char) :
    (many true p).first? s = match p.first? s with
      | some t => (many true p).first? t
      | none => some s := by
  have hmatch : ∀ t, ((many true p).first? t).isSome := by
    intro t
    rw [first?, rests_many hp, if_pos rfl, List.head?_append, Option.isSome_or]
    exact Bool.or_true _
  rw [first?, rests_many hp, if_pos rfl, List.head?_append, List.head?_flatMap]
  change ((p.rests s).findSome? (many true p).first?).or (some s) = _
  cases hrests : p.rests s with
  | nil => rw [first?, hrests]; rfl
  | cons t ts =>
    obtain ⟨u, hu⟩ := Option.isSome_iff_exists.mp (hmatch t)
    have hfirst : p.first? s = some t := by rw [first?, hrests]; rfl
    simp only [List.findSome?_cons, hfirst, hu, Option.some_or]

/-- A greedy repetition of characters of a kind takes all of them. -/
lemma first?_many_one (kind : Char → Bool) (s : List Char) :
    (many true (one kind)).first? s = some (s.dropWhile kind) := by
  induction s with
  | nil => rfl
  | cons c s ih =>
    rw [first?_many (takes_one kind), first?_one_cons]
    cases hc : kind c with
    | true => simp [hc, ih]
    | false => simp [hc]

/-- A repetition that rather stops goes on over a character only if what is behind it does not match
yet. -/
lemma first?_few_one_seq_cons (kind : Char → Bool) (q : Pattern) (c : Char) (s : List Char) :
    ((many false (one kind)).seq q).first? (c :: s) =
      (q.first? (c :: s)).or
        (if kind c then ((many false (one kind)).seq q).first? s else none) := by
  have hrest : ((one kind).rests (c :: s)).flatMap (many false (one kind)).rests =
      if kind c then (many false (one kind)).rests s else [] := by
    rw [rests]
    cases kind c with
    | true => exact List.flatMap_singleton _ s
    | false => rfl
  rw [first?_seq, rests_many (takes_one kind), if_neg Bool.false_ne_true, List.findSome?_cons,
    hrest]
  cases q.first? (c :: s) with
  | some t => rfl
  | none =>
    rw [Option.none_or]
    cases kind c with
    | true => exact (first?_seq _ _ _).symm
    | false => rfl

end Pattern

end PgGateway.Text
