import MeshAttest.Evidence
import MeshAttest.Round

/-!
# Attestation of a mesh

An attester collects evidence from the GPUs and then from the switches of a mesh, each in a session
of its own, and runs a round with it. Between rounds it keeps nothing but the result of the last
round that was completed.
-/

set_option autoImplicit false

namespace MeshAttest

/-- An attester of one mesh. -/
structure Attester where
  round : Round
  /-- The result of the last completed round, if there has been one. -/
  lastResult : Option RoundResult := none

namespace Attester

/-- An attester for a number of GPUs, with settings for both kinds of submissions. -/
def create (gpuCount : Int) (gpuOptions switchOptions : Options) : Attester where
  round :=
    { gpuCount
      gpuClient := .create .hopper gpuOptions
      switchClient := .create .ls10 switchOptions }

/-- Collects evidence for a nonce and runs a round with it. -/
def attempt (attester : Attester) (now : Int) (nonce : Bytes)
    (gpuSource switchSource : EvidenceSource) : Attempt RoundResult := do
  let gpus ← gpuSource.session (gpuSource.collect nonce none)
  let switches ← switchSource.session (switchSource.collect nonce none)
  attester.round.run now gpus switches nonce

/-- Runs a round and keeps its result, if it has one. -/
def attest (attester : Attester) (now : Int) (nonce : Bytes)
    (gpuSource switchSource : EvidenceSource) (replies : List Reply) :
    (Except Failure RoundResult × Wire) × Attester :=
  let (outcome, wire) := (attester.attempt now nonce gpuSource switchSource).runWith replies
  let lastResult := match outcome with
    | .ok result => some result
    | .error _ => attester.lastResult
  ((outcome, wire), { attester with lastResult })

end Attester

end MeshAttest
