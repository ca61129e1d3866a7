import MeshAttest.KeySet.Location
import MeshAttest.Token.Fault
import MeshAttest.Topology
import MeshAttest.Verifier.Fault

/-!
# Failures

Every way in which a step of an attestation can fail. Most are failures of the attestation itself
(`Failure.isOfAttestation`): something was read, sent or verified and was not right. The others mean
that the caller passed something that cannot be worked with or sent, or that a certificate, a token
or a URL has an unexpected form.
-/

set_option autoImplicit false

namespace MeshAttest

/-- A failed step. -/
inductive Failure where
  | topology (fault : TopologyFault)
  /-- A source of evidence cannot read a device. -/
  | unavailable (message : String)
  /-- A nonce does not have the size of one. -/
  | nonceSize (size : Nat)
  | transport (fault : TransportFault)
  | sending (fault : SendFault)
  | response (fault : ResponseFault)
  | location (fault : KeySet.LocationFault)
  | token (fault : TokenFault)
  /-- A name is not that of an architecture. -/
  | architecture (name : String)
  | entry (fault : EntryFault)
deriving DecidableEq

namespace Failure

/-- The message of a failure. -/
def message : Failure → String
  | .topology fault => fault.message
  | .unavailable text => text
  | .nonceSize size => s!"Nonce must be 32 bytes, got {size}"
  | .transport fault => fault.message
  | .sending fault => fault.message
  | .response fault => fault.message
  | .location fault => fault.message
  | .token fault => fault.message
  | .architecture name => s!"{Text.quoted name} is not a valid Arch"
  | .entry fault => fault.message

/-- Whether a failure is one of the attestation itself. -/
def isOfAttestation : Failure → Bool
  | .topology (.noReportsExpected _) => false
  | .nonceSize _ | .sending _ | .architecture _ | .entry _ | .location (.url _) => false
  | .token (.encoding _) => false
  | .token (.certificate fault) =>
    match fault with
    | .malformed | .keyType _ | .curve _ => true
    | .version _ | .unsupportedAlgorithm | .invalidKey => false
  | _ => true

end Failure

end MeshAttest
