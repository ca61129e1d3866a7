import MeshAttest.Token.Compact

/-!
# Claims of result tokens

The payload of a token is an object of claims. `TimeClaim.check` compares with the clock those that
say when the token is valid; `Claims.ofPayload` takes the verdict from the others. The clock has no
influence on the claims themselves.

The registered claims are judged as in PyJWT 2.15.1: in this order, each only if it is there, and
without regard to the issuer and the audience.
-/

set_option autoImplicit false

namespace MeshAttest

/-- The integer that a claim stands for: a number without its fraction, a truth value as zero or
one, or a text that writes an integer. -/
def Json.integerOf? : Json → Option Int
  | .integer value => some value
  | .bool value => some (if value then 1 else 0)
  | .float value => value.truncate?
  | .string text => Text.integer? text.toList
  | _ => none

/-- Whether a moment that a claim names admits the token at the time of the clock. -/
def TimeClaim.admits : TimeClaim → Int → Int → Bool
  | .issuedAt, moment, now | .notBefore, moment, now => moment ≤ now
  | .expiration, moment, now => now < moment

/-- The flaw of a token that a claim does not admit at the time of the clock. -/
def TimeClaim.refusal : TimeClaim → TokenFlaw
  | .expiration => .expired
  | claim => .notYetValid claim

/-- Judges a claim, if the payload has it. -/
def TimeClaim.check (claim : TimeClaim) (now : Int) (payload : List (String × Json)) :
    Except TokenFlaw Unit :=
  match Json.lookup? claim.key payload with
  | none => .ok ()
  | some value =>
    match value.integerOf? with
    | none => .error (.timeNotInteger claim)
    | some moment => if claim.admits moment now then .ok () else .error claim.refusal

/-- A claim that has to be a string, if the payload has it. -/
def checkText (key : String) (flaw : TokenFlaw) (payload : List (String × Json)) :
    Except TokenFlaw Unit :=
  match Json.lookup? key payload with
  | none => .ok ()
  | some value => if value.isString then .ok () else .error flaw

/-- Judges the registered claims of a payload. -/
def checkRegistered (now : Int) (payload : List (String × Json)) : Except TokenFlaw Unit := do
  TimeClaim.check .issuedAt now payload
  TimeClaim.check .notBefore now payload
  TimeClaim.check .expiration now payload
  checkText "sub" .subjectNotString payload
  checkText "jti" .tokenIdNotString payload

/-- What an accepted token says. -/
structure Claims where
  /-- The verdict on the evidence. -/
  verdict : Bool
  /-- All other claims. -/
  additional : List (String × Json)

/-- The claims of a payload, which has to have a verdict. -/
def Claims.ofPayload (payload : List (String × Json)) : Except TokenFault Claims :=
  match Json.lookup? verdictKey payload with
  | none => .error .verdictAbsent
  | some (.bool verdict) =>
    .ok ⟨verdict, payload.filter fun entry ↦ decide (entry.1 ≠ verdictKey)⟩
  | some value => .error (.verdictKind value.kindName)

end MeshAttest
