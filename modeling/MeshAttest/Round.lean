import MeshAttest.Verifier.Client

/-!
# Verification rounds

A round first checks on the spot that the reports of the GPUs and of the switches describe one mesh;
nothing is sent unless they do. Then the evidence of the GPUs is submitted, and after that the
evidence of the switches. The round passes if both verdicts are positive.
-/

set_option autoImplicit false

namespace MeshAttest

/-- The outcome of a round. -/
structure RoundResult where
  /-- Whether the round has passed. -/
  passed : Bool
  gpuPassed : Bool
  switchPassed : Bool
  /-- The switches that all GPUs are connected to. -/
  switchPdis : PdiSet
  /-- The GPUs that are attached to all switches. -/
  gpuPdis : PdiSet
  gpuResponse : Json
  switchResponse : Json

/-- What a round is run with. -/
structure Round where
  /-- The number of GPUs of the mesh. -/
  gpuCount : Int := meshGpuCount
  gpuClient : Client := .create .hopper
  switchClient : Client := .create .ls10

namespace Round

/-- The sets of switches and of GPUs that the reports agree on. -/
def gate (round : Round) (gpus switches : List CollectedEvidence) :
    Except TopologyFault (PdiSet × PdiSet) := do
  let switchPdis ← ({ reports := round.gpuCount } : DeviceCheck).run (gpus.map (·.report))
  let gpuPdis ← ({ attachments := round.gpuCount, accepted := switchPdis } : NeighborCheck).run
    (switches.map (·.report))
  return (switchPdis, gpuPdis)

/-- Runs a round at the time of the clock. -/
def run (round : Round) (now : Int) (gpus switches : List CollectedEvidence) (nonce : Bytes) :
    Attempt RoundResult := do
  let (switchPdis, gpuPdis) ← ofExcept ((round.gate gpus switches).mapError .topology)
  let (gpuPassed, gpuResponse) ←
    round.gpuClient.submit now (gpus.map (·.deviceItem)) (.octets nonce) none
  let (switchPassed, switchResponse) ←
    round.switchClient.submit now (switches.map (·.switchItem)) (.octets nonce) none
  let passed := gpuPassed && switchPassed
  return { passed, gpuPassed, switchPassed, switchPdis, gpuPdis, gpuResponse, switchResponse }

end Round

end MeshAttest
