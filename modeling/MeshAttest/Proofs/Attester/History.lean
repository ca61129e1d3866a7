import MeshAttest.Attester
import Mathlib.Data.List.Basic

/-!
# Attestations one after the other

Between attestations an attester keeps the last result and nothing else, so that none of them has an
influence on those that follow. What it keeps is the last of all results that there have been
(`Attester.lastResult_after`): an attestation that fails, at whatever stage, leaves it alone, and a
result is kept whatever its verdicts are.
-/

set_option autoImplicit false

namespace MeshAttest.Attester

/-- What an attestation is called with: the time, the nonce, whether it has been supplied or drawn,
what the sources are at that time, and the replies that come. -/
structure Call where
  now : Int
  nonce : Bytes
  gpuSource : EvidenceSource
  switchSource : EvidenceSource
  replies : List Reply

variable {attester : Attester}

/-- What an attestation comes to: its outcome, and the wire that it leaves. -/
def answer (attester : Attester) (call : Call) : Except Failure RoundResult × Wire :=
  (attester.attest call.now call.nonce call.gpuSource call.switchSource call.replies).1

/-- The attester after an attestation. -/
def next (attester : Attester) (call : Call) : Attester :=
  (attester.attest call.now call.nonce call.gpuSource call.switchSource call.replies).2

/-- The attester after attestations one after the other. -/
def after (attester : Attester) (calls : List Call) : Attester := calls.foldl next attester

/-- The results that attestations have, in order. Those that fail have none. -/
def results (attester : Attester) : List Call → List RoundResult
  | [] => []
  | call :: rest => (attester.answer call).1.toOption.toList ++ (attester.next call).results rest

/-! ### One attestation -/

theorem answer_eq (attester : Attester) (call : Call) :
    attester.answer call =
      (attester.attempt call.now call.nonce call.gpuSource call.switchSource).runWith
        call.replies := rfl

/-- An attestation has no effect on what the attester attests. -/
theorem next_round (attester : Attester) (call : Call) :
    (attester.next call).round = attester.round := rfl

/-- After an attestation its result is kept, and if it has none, what was kept before. -/
theorem lastResult_next (attester : Attester) (call : Call) :
    (attester.next call).lastResult =
      (attester.answer call).1.toOption.or attester.lastResult := by
  rw [answer_eq, next, attest]
  rcases (attester.attempt call.now call.nonce call.gpuSource call.switchSource).runWith
    call.replies with ⟨outcome, wire⟩
  cases outcome with
  | error failure => rfl
  | ok result => rfl

/-- What an attestation comes to depends on what the attester has been created with only. -/
theorem answer_eq_of_round_eq {other : Attester} (h : attester.round = other.round) (call : Call) :
    attester.answer call = other.answer call := by
  rw [answer_eq, answer_eq, attempt, attempt, h]

/-! ### A history of attestations -/

theorem after_cons (attester : Attester) (call : Call) (calls : List Call) :
    attester.after (call :: calls) = (attester.next call).after calls := rfl

theorem after_concat (attester : Attester) (calls : List Call) (call : Call) :
    attester.after (calls ++ [call]) = (attester.after calls).next call :=
  List.foldl_concat _ _ _ _

theorem after_round (attester : Attester) (calls : List Call) :
    (attester.after calls).round = attester.round := by
  induction calls generalizing attester with
  | nil => rfl
  | cons call rest ih => rw [after_cons, ih, next_round]

/-- The induction is on the attestations. A result of the first one is kept as long as there is no
other. -/
theorem lastResult_after (attester : Attester) (calls : List Call) :
    (attester.after calls).lastResult =
      (attester.results calls).getLast?.or attester.lastResult := by
  induction calls generalizing attester with
  | nil => rfl
  | cons call rest ih =>
    -- An attestation has one result or none, and it is kept unless there is a later one.
    have hfirst : (attester.answer call).1.toOption.toList.getLast? =
        (attester.answer call).1.toOption := by
      cases (attester.answer call).1.toOption with
      | none => rfl
      | some result => rfl
    rw [after_cons, ih, lastResult_next, results, List.getLast?_append, hfirst, Option.or_assoc]

/-- After any number of attestations, an attester that was created anew has the last result that
there has been, if there has been one. The next attestation comes to what it would have come to at
first, and if it fails, the last result stays as it is. -/
theorem attest_after (gpuCount : Int) (gpuOptions switchOptions : Options) (calls : List Call) :
    let fresh := create gpuCount gpuOptions switchOptions
    (fresh.after calls).lastResult = (fresh.results calls).getLast? ∧
      ∀ call : Call,
        (fresh.after calls).answer call = fresh.answer call ∧
        ∀ failure, ((fresh.after calls).answer call).1 = .error failure →
          (fresh.after (calls ++ [call])).lastResult = (fresh.after calls).lastResult := by
  intro fresh
  refine ⟨?_, fun call ↦ ⟨?_, ?_⟩⟩
  · rw [lastResult_after]
    exact Option.or_none
  · exact answer_eq_of_round_eq (after_round fresh calls) call
  · intro failure hfailure
    rw [after_concat, lastResult_next, hfailure]
    rfl

end MeshAttest.Attester
