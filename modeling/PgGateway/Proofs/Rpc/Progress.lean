import PgGateway.Proofs.Rpc.Run
import Mathlib.Data.List.Induction

set_option autoImplicit false

/-!
# The progress of a session

A session goes through its states in one order and never back, whatever its handler does. It has
begun the handshake once it has served a greeting, and is over once it has served a shutdown, which
it does only after a greeting.

## Main definitions

* `PgGateway.Rpc.Lifecycle.rank` — the place of a state in the order.
* `PgGateway.Rpc.Session.visited` — the states that a session goes through on some lines.
* `PgGateway.Rpc.Session.Serves` — whether a session serves a request of a method on some lines.

## Main results

* `PgGateway.Rpc.Session.pairwise_visited` — the states that a session goes through never go back.
* `PgGateway.Rpc.Session.lifecycle_reached_mem_visited` — the states that it reaches are among them.
* `PgGateway.Rpc.Session.lifecycle_reached` — which state a new session has reached.
* `PgGateway.Rpc.Session.step_of_refused` — what becomes of a request that is not served.
-/

namespace PgGateway.Rpc

/-- The place of a state in the order in which a session goes through them. -/
def Lifecycle.rank : Lifecycle → Nat
  | .created => 0
  | .greeted => 1
  | .running => 2
  | .shuttingDown => 3
  | .stopped => 4

/-- No state is behind the end. -/
lemma Lifecycle.rank_le_stopped (l : Lifecycle) : l.rank ≤ Lifecycle.stopped.rank := by
  cases l <;> decide

/-- What a line holds never leads back. -/
lemma Incoming.rank_le_next (l : Lifecycle) (i : Incoming) : l.rank ≤ (i.next l).rank := by
  cases i with
  | blank | response | malformed => exact Nat.le_refl _
  | request r =>
    rw [next]
    split
    · cases l with
      | created | running =>
        rw [Lifecycle.advance]
        split <;> decide
      | greeted =>
        rw [Lifecycle.advance]
        split
        · decide
        · split <;> decide
      | shuttingDown | stopped => exact Nat.le_refl _
    · exact Nat.le_refl _

namespace Session

variable {τ : Type} (h : Handler τ)

/-! ## The order of the states -/

/-- No line takes a session back. -/
lemma rank_le_step (s : Session τ) (line : String) :
    s.lifecycle.rank ≤ (s.step h line).2.lifecycle.rank := by
  rw [step_lifecycle]
  exact Incoming.rank_le_next _ _

/-- The states that a session goes through on some lines, from the one it is in to its end. -/
def visited (s : Session τ) : List String → List Lifecycle
  | [] => [s.lifecycle, .stopped]
  | line :: rest =>
    if s.isOver then [s.lifecycle, .stopped]
    else s.lifecycle :: visited (s.step h line).2 rest

/-- A session goes through no state before the one it is in. -/
lemma rank_le_of_mem_visited {s : Session τ} {lines : List String} {l : Lifecycle}
    (hl : l ∈ s.visited h lines) : s.lifecycle.rank ≤ l.rank := by
  have hend : ∀ s : Session τ, l ∈ [s.lifecycle, .stopped] → s.lifecycle.rank ≤ l.rank := by
    intro s hl
    simp only [List.mem_cons, List.not_mem_nil, or_false] at hl
    rcases hl with rfl | rfl
    · exact Nat.le_refl _
    · exact s.lifecycle.rank_le_stopped
  induction lines generalizing s with
  | nil => exact hend s hl
  | cons line rest ih =>
    rw [visited] at hl
    split at hl
    · exact hend s hl
    · rcases List.mem_cons.mp hl with rfl | hrest
      · exact Nat.le_refl _
      · exact Nat.le_trans (rank_le_step h s line) (ih hrest)

/-- **The order of the states.** The states that a session goes through never go back. -/
theorem pairwise_visited (s : Session τ) (lines : List String) :
    (s.visited h lines).Pairwise fun l l' => l.rank ≤ l'.rank := by
  have hend : ∀ s : Session τ,
      [s.lifecycle, Lifecycle.stopped].Pairwise fun l l' => l.rank ≤ l'.rank := by
    intro s
    simpa using s.lifecycle.rank_le_stopped
  induction lines generalizing s with
  | nil => exact hend s
  | cons line rest ih =>
    rw [visited]
    split
    · exact hend s
    · refine List.pairwise_cons.mpr ⟨fun l hl => ?_, ih _⟩
      exact Nat.le_trans (rank_le_step h s line) (rank_le_of_mem_visited h hl)

/-- Every state that a session reaches on the way is one that it goes through. -/
theorem lifecycle_reached_mem_visited (s : Session τ) (before after : List String) :
    (s.reached h before).lifecycle ∈ s.visited h (before ++ after) := by
  induction before generalizing s with
  | nil =>
    cases after with
    | nil => simp [reached, visited]
    | cons line rest =>
      rw [List.nil_append, reached, visited]
      split <;> simp
  | cons line rest ih =>
    rw [List.cons_append, reached, visited]
    split
    · simp
    · exact List.mem_cons_of_mem _ (ih _)

/-! ## The state after some lines -/

/-- Whether a session serves a request of a method on some lines. -/
def Serves (s : Session τ) (lines : List String) (method : String) : Prop :=
  ∃ before line after, lines = before ++ line :: after ∧
    (Incoming.ofLine line).method? = some method ∧
    (s.reached h before).lifecycle.admits method = true

/-- Without lines no request is served. -/
lemma not_serves_nil (s : Session τ) (method : String) : ¬ s.Serves h [] method := by
  rintro ⟨before, line, after, hlines, -⟩
  simp at hlines

/-- A session serves a request of a method if it does so on the lines before the last, or on the
last after these. -/
lemma serves_concat {s : Session τ} {lines : List String} {line method : String} :
    s.Serves h (lines ++ [line]) method ↔ s.Serves h lines method ∨
      (Incoming.ofLine line).method? = some method ∧
        (s.reached h lines).lifecycle.admits method = true := by
  constructor
  · rintro ⟨before, other, after, hlines, hserved⟩
    rcases List.eq_nil_or_concat after with rfl | ⟨front, last, rfl⟩
    · obtain ⟨rfl, rfl⟩ := List.append_singleton_inj.mp hlines
      exact .inr hserved
    · rw [List.concat_eq_append, ← List.cons_append, ← List.append_assoc] at hlines
      exact .inl ⟨before, other, front, (List.append_singleton_inj.mp hlines).1, hserved⟩
  · rintro (⟨before, other, after, rfl, hserved⟩ | hserved)
    · exact ⟨before, other, after ++ [line], by simp, hserved⟩
    · exact ⟨lines, line, [], rfl, hserved⟩

/-- The session after one more line. -/
lemma reached_concat (s : Session τ) (lines : List String) (line : String) :
    s.reached h (lines ++ [line]) =
      if (s.reached h lines).isOver then s.reached h lines
      else ((s.reached h lines).step h line).2 := by
  rw [reached_append, reached, reached]

/-- **The state of a new session.** After some lines it has begun the handshake exactly if it has
served a greeting, and is over exactly if it has served a shutdown. It has not stopped.

**Proof sketch.** Induction on the lines from the front. A session that is over stays so. One that
is going is over after the next line if that is a shutdown and the handshake has begun; else it goes
on, and has begun the handshake if it had or if the line is a greeting. -/
theorem lifecycle_reached (t : τ) (lines : List String) :
    (((start t).reached h lines).lifecycle ≠ .created ↔ (start t).Serves h lines "initialize") ∧
      (((start t).reached h lines).isOver = true ↔ (start t).Serves h lines "shutdown") ∧
      ((start t).reached h lines).lifecycle ≠ .stopped := by
  induction lines using List.reverseRecOn with
  | nil =>
    exact ⟨iff_of_false (fun hne => hne rfl) (not_serves_nil h _ _),
      iff_of_false nofun (not_serves_nil h _ _), nofun⟩
  | append_singleton lines line ih =>
    obtain ⟨hgreeting, hshutdown, hstopped⟩ := ih
    rw [reached_concat, serves_concat, serves_concat, ← hgreeting, ← hshutdown]
    generalize (start t).reached h lines = s at *
    by_cases hover : s.isOver = true
    · have hshutting : s.lifecycle = .shuttingDown := by simpa [isOver] using hover
      rw [if_pos hover]
      simp [hover, hshutting]
    · rw [if_neg hover]
      have hgoing : s.lifecycle.IsGoing := ⟨by simpa [isOver] using hover, hstopped⟩
      have hnext := step_lifecycle h s line
      have hadmits : s.lifecycle.admits "shutdown" = true ↔ s.lifecycle ≠ .created := by
        obtain ⟨hshutting, hstopped⟩ := hgoing
        cases hs : s.lifecycle <;> simp_all [Lifecycle.admits]
      rw [hadmits, iff_true_intro hgoing.admits_initialize, and_true, or_iff_right hover]
      by_cases hshut :
          (s.lifecycle != .created && (Incoming.ofLine line).method? == some "shutdown") = true
      · have hlast := hgoing.next_of_shutdown hshut
        rw [← hnext] at hlast
        rw [Bool.and_eq_true, bne_iff_ne, beq_iff_eq] at hshut
        refine ⟨iff_of_true ?_ (.inl hshut.1), iff_of_true ?_ hshut.symm, ?_⟩ <;>
          simp [isOver, hlast]
      · obtain ⟨hstill, hcreated⟩ := hgoing.next_of_not_shutdown hshut
        rw [← hnext] at hstill hcreated
        rw [Bool.and_eq_true, bne_iff_ne, beq_iff_eq] at hshut
        refine ⟨?_, iff_of_false ?_ (fun hnow => hshut hnow.symm), hstill.2⟩
        · rw [← bne_iff_ne, hcreated, Bool.or_eq_true, bne_iff_ne, beq_iff_eq]
        · simpa [isOver] using hstill.1

/-! ## Refusals -/

/-- A request that is not served is answered with the error that says so if it has an id, and
changes nothing about the session. -/
lemma step_of_refused {s : Session τ} {line : String} {r : Request}
    (hline : Incoming.ofLine line = .request r) (hrefused : s.lifecycle.admits r.method = false) :
    s.step h line =
      (r.id.map fun id => .failure (some id) (.ofProtocol .notInitialized), s) := by
  rw [step, hline, react, serve, hrefused, if_neg Bool.false_ne_true]
  cases hid : r.id <;> simp [Request.isNotification, hid]

end Session

end PgGateway.Rpc
