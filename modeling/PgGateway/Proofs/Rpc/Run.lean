import PgGateway.Rpc.Session
import Mathlib.Tactic.Common

set_option autoImplicit false

/-!
# Runs of a session

A run line by line: the lines that a session takes, each with its answer, and the session that is
reached after some of them. Only the methods of the requests decide how far a session gets.

## Main definitions

* `PgGateway.Rpc.Session.history` — the lines that are taken, with their answers.
* `PgGateway.Rpc.Session.reached` — the session after some lines.
* `PgGateway.Rpc.Incoming.next` — how far a session is after what a line holds.
* `PgGateway.Rpc.Lifecycle.IsGoing` — whether a session still takes lines.

## Main results

* `PgGateway.Rpc.Session.run_eq` — a run gives the answers of its history and stops where it is.
* `PgGateway.Rpc.Session.reached_append`, `PgGateway.Rpc.Session.history_append` — a run of two
  inputs is a run of the first and then of the second.
* `PgGateway.Rpc.Session.run_append` — so the output is that of the two.
* `PgGateway.Rpc.Session.run_append_cons` — what a run gives that comes to a line.
* `PgGateway.Rpc.Session.step_lifecycle` — how far a session is after a line.
-/

namespace PgGateway.Rpc

namespace Incoming

/-- The method of a request that a line holds. -/
def method? : Incoming → Option String
  | .request r => some r.method
  | _ => none

/-- How far a session is after what a line holds. -/
def next (l : Lifecycle) : Incoming → Lifecycle
  | .request r => if l.admits r.method then l.advance r.method else l
  | _ => l

end Incoming

namespace Lifecycle

/-- Whether a session still takes lines. -/
def IsGoing (l : Lifecycle) : Prop :=
  l ≠ .shuttingDown ∧ l ≠ .stopped

variable {l : Lifecycle} {i : Incoming}

/-- A session that is going serves every greeting. -/
lemma IsGoing.admits_initialize (hgoing : l.IsGoing) : l.admits "initialize" = true := by
  obtain ⟨hshutting, hstopped⟩ := hgoing
  cases l <;> simp_all [admits]

/-- A shutdown after the handshake has begun ends the session. -/
lemma IsGoing.next_of_shutdown (hgoing : l.IsGoing)
    (hshut : (l != .created && i.method? == some "shutdown") = true) :
    i.next l = .shuttingDown := by
  obtain ⟨hshutting, hstopped⟩ := hgoing
  cases i with
  | blank | response | malformed => simp [Incoming.method?] at hshut
  | request r => cases l <;> simp_all [Incoming.method?, Incoming.next, admits, advance]

/-- Any other line leaves the session going, and a greeting begins the handshake. -/
lemma IsGoing.next_of_not_shutdown (hgoing : l.IsGoing)
    (hshut : ¬ (l != .created && i.method? == some "shutdown") = true) :
    (i.next l).IsGoing ∧
      (i.next l != .created) = (l != .created || i.method? == some "initialize") := by
  cases i with
  | blank | response | malformed => simpa [Incoming.method?, Incoming.next] using hgoing
  | request r =>
    obtain ⟨hshutting, hstopped⟩ := hgoing
    cases l with
    | created =>
      by_cases hinit : r.method = "initialize" <;>
        simp [Incoming.method?, Incoming.next, admits, advance, IsGoing, hinit]
    | greeted =>
      have hne : r.method ≠ "shutdown" := by simpa [Incoming.method?] using hshut
      by_cases hconfirm : r.method = "initialized"
      · simp [Incoming.method?, Incoming.next, admits, advance, IsGoing, hconfirm]
        rfl
      · simp [Incoming.method?, Incoming.next, admits, advance, IsGoing, hne, hconfirm]
    | running =>
      have hne : r.method ≠ "shutdown" := by simpa [Incoming.method?] using hshut
      simp [Incoming.method?, Incoming.next, admits, advance, IsGoing, hne]
    | shuttingDown => exact absurd rfl hshutting
    | stopped => exact absurd rfl hstopped

/-- A session that was going is going, or it is over. -/
lemma IsGoing.next_or (hgoing : l.IsGoing) (i : Incoming) :
    (i.next l).IsGoing ∨ i.next l = .shuttingDown := by
  by_cases hshut : (l != .created && i.method? == some "shutdown") = true
  · exact .inr (hgoing.next_of_shutdown hshut)
  · exact .inl (hgoing.next_of_not_shutdown hshut).1

end Lifecycle

namespace Session

variable {τ : Type} (h : Handler τ)

/-- The lines that a session takes, each with its answer. -/
def history (s : Session τ) : List String → List (String × Option Response)
  | [] => []
  | line :: rest =>
    if s.isOver then [] else (line, (s.step h line).1) :: history (s.step h line).2 rest

/-- The session after some lines. Once it is over it takes no more. -/
def reached (s : Session τ) : List String → Session τ
  | [] => s
  | line :: rest => if s.isOver then s else reached (s.step h line).2 rest

/-- A session that is going is not over. -/
lemma isOver_of_isGoing {s : Session τ} (hgoing : s.lifecycle.IsGoing) : s.isOver = false := by
  simpa [isOver] using hgoing.1

/-- A session that is over takes no line. -/
lemma history_of_isOver {s : Session τ} (hover : s.isOver = true) (lines : List String) :
    s.history h lines = [] := by
  cases lines <;> simp [history, hover]

/-- A session that is over stays as it is. -/
lemma reached_of_isOver {s : Session τ} (hover : s.isOver = true) (lines : List String) :
    s.reached h lines = s := by
  cases lines <;> simp [reached, hover]

/-- A run gives the answers of its history, and ends stopped in the state that it has reached. -/
theorem run_eq (s : Session τ) (lines : List String) :
    s.run h lines =
      ((s.history h lines).filterMap Prod.snd,
        { s.reached h lines with lifecycle := .stopped }) := by
  induction lines generalizing s with
  | nil => rfl
  | cons line rest ih =>
    by_cases hover : s.isOver = true
    · simp [run, history, reached, hover]
    · cases hanswer : (s.step h line).1 <;> simp [run, history, reached, hover, ih, hanswer]

/-- The session after two inputs is the one after the second, from the one after the first. -/
theorem reached_append (s : Session τ) (before after : List String) :
    s.reached h (before ++ after) = (s.reached h before).reached h after := by
  induction before generalizing s with
  | nil => rfl
  | cons line rest ih =>
    by_cases hover : s.isOver = true
    · simp [reached, hover, reached_of_isOver h hover]
    · simp [reached, hover, ih]

/-- The history of two inputs is that of the first, followed by that of the second. -/
theorem history_append (s : Session τ) (before after : List String) :
    s.history h (before ++ after) = s.history h before ++ (s.reached h before).history h after := by
  induction before generalizing s with
  | nil => rfl
  | cons line rest ih =>
    by_cases hover : s.isOver = true
    · simp [history, reached, hover, history_of_isOver h hover]
    · simp [history, reached, hover, ih]

/-- The output for two inputs is that for the first, followed by what the session that is reached
gives for the second. -/
theorem run_append (s : Session τ) (before after : List String) :
    (s.run h (before ++ after)).1 =
      (s.run h before).1 ++ ((s.reached h before).run h after).1 := by
  rw [run_eq, run_eq, run_eq, history_append, List.filterMap_append]

/-- A run that comes to a line gives what it gives for the lines before, the answer to the line, and
what the session that is reached gives for the others. -/
theorem run_append_cons {s : Session τ} {before : List String}
    (hover : (s.reached h before).isOver = false) (line : String) (after : List String) :
    (s.run h (before ++ line :: after)).1 =
      (s.run h before).1 ++ ((s.reached h before).step h line).1.toList ++
        ((s.reached h (before ++ [line])).run h after).1 := by
  have hnot : ¬ (s.reached h before).isOver = true := by simp [hover]
  have hline : s.reached h (before ++ [line]) = ((s.reached h before).step h line).2 := by
    rw [reached_append, reached, if_neg hnot, reached]
  rw [run_eq, run_eq, run_eq, hline, history_append, history, if_neg hnot, List.filterMap_append,
    List.filterMap_cons]
  cases ((s.reached h before).step h line).1 <;> simp

/-- How far a session is after a line is decided by the line alone, not by the handler. -/
theorem step_lifecycle (s : Session τ) (line : String) :
    (s.step h line).2.lifecycle = (Incoming.ofLine line).next s.lifecycle := by
  rw [step]
  cases Incoming.ofLine line with
  | blank => rfl
  | response r => rfl
  | malformed => rfl
  | request r =>
    simp only [react, serve, Incoming.next]
    split <;> rfl

/-- A session that is going takes a line before the others. -/
lemma reached_cons_of_isGoing {s : Session τ} (hgoing : s.lifecycle.IsGoing) (line : String)
    (rest : List String) : s.reached h (line :: rest) = (s.step h line).2.reached h rest := by
  rw [reached, isOver_of_isGoing hgoing, if_neg Bool.false_ne_true]

/-- The history of a session that is going begins with the first line. -/
lemma history_cons_of_isGoing {s : Session τ} (hgoing : s.lifecycle.IsGoing) (line : String)
    (rest : List String) :
    s.history h (line :: rest) = (line, (s.step h line).1) :: (s.step h line).2.history h rest := by
  rw [history, isOver_of_isGoing hgoing, if_neg Bool.false_ne_true]

/-- A session that is going in the end was going after its first line. -/
lemma isGoing_step {s : Session τ} (hgoing : s.lifecycle.IsGoing) {line : String}
    {rest : List String} (hend : ((s.step h line).2.reached h rest).lifecycle.IsGoing) :
    (s.step h line).2.lifecycle.IsGoing := by
  rw [step_lifecycle]
  refine (hgoing.next_or (Incoming.ofLine line)).resolve_right fun hlast => ?_
  rw [← step_lifecycle h] at hlast
  rw [reached_of_isOver h (by simp [isOver, hlast])] at hend
  exact hend.1 hlast

end Session

end PgGateway.Rpc
