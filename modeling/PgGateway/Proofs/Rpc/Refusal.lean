import PgGateway.Proofs.Text.Cut
import PgGateway.Rpc.Call

set_option autoImplicit false

/-!
# Refusals in answers

An answer that reports a refusal of the arguments can be told from every other answer: from values
because it is marked, and from other failures by its wording.

## Main results

* `PgGateway.Failure.message_eq_iff` — only a refusal has the wording of one.
* `PgGateway.Rpc.ToolAnswer.ofOutcome_eq_iff` — only a refusal has the answer of one.
-/

namespace PgGateway

/-- Only a refusal of the arguments has the wording of one. -/
theorem Failure.message_eq_iff {cause : Failure} {detail : String} :
    cause.message = (Failure.tool (.invalidArguments detail)).message ↔
      cause = .tool (.invalidArguments detail) := by
  constructor
  · intro h
    cases cause with
    | tool e =>
      have he : e.message = (ToolError.invalidArguments detail).message :=
        (String.append_right_inj "Tool error: ").mp h
      cases e with
      | invalidArguments other =>
        have hdetail : other = detail := (String.append_right_inj "Invalid arguments: ").mp he
        rw [hdetail]
      | notFound | executionFailed | missingArgument =>
        exact absurd he (Text.append_ne_append (by decide) _ _)
    | protocol | database | config | stream | json | internal =>
      exact absurd h (Text.append_ne_append (by decide) _ _)
  · rintro rfl
    rfl

/-- Only a refusal of the arguments has the answer of one. -/
theorem Rpc.ToolAnswer.ofOutcome_eq_iff {outcome : Except Failure Json} {detail : String} :
    ofOutcome outcome = ofOutcome (.error (.tool (.invalidArguments detail))) ↔
      outcome = .error (.tool (.invalidArguments detail)) := by
  constructor
  · intro h
    cases outcome with
    | ok value => cases (ToolAnswer.mk.inj h).2
    | error cause =>
      have hmessage := (List.cons.inj (ToolAnswer.mk.inj h).1).1
      rw [Failure.message_eq_iff.mp hmessage]
  · rintro rfl
    rfl

end PgGateway
