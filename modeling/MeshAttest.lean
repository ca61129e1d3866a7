import MeshAttest.Attester
import MeshAttest.Bytes.Lemmas
import MeshAttest.Main
import MeshAttest.Verifier.AsyncClient
import MeshAttest.Proofs.Outcome
import MeshAttest.Proofs.FirstPosition
import MeshAttest.Proofs.Topology.Agreement
import MeshAttest.Proofs.Token.Parts
import MeshAttest.Proofs.Token.Acceptance
import MeshAttest.Proofs.Attempt
import MeshAttest.Proofs.Verifier.Submission
import MeshAttest.Proofs.Round
import MeshAttest.Proofs.Topology.DisabledSlots
import MeshAttest.Proofs.Topology.Rearrangement
import MeshAttest.Proofs.KeySet.Location
import MeshAttest.Proofs.Octets
import MeshAttest.Proofs.Pdi.Format
import MeshAttest.Proofs.Session
import MeshAttest.Proofs.Submitted
import MeshAttest.Proofs.Verifier.AsyncAgreement
import MeshAttest.Proofs.Report.Fields
import MeshAttest.Proofs.Report.Layout
import MeshAttest.Proofs.Attester.Sessions
import MeshAttest.Proofs.Attester.History
import MeshAttest.Proofs.Report.FirstFields
import MeshAttest.Proofs.Report.Lookup
import MeshAttest.Proofs.Report.LinkFaults
import MeshAttest.Proofs.Report.Truncation
import MeshAttest.Proofs.Topology.HealthyMesh
import MeshAttest.Proofs.Topology.VouchedSwitches
import MeshAttest.Proofs.Topology.FirstFault
import MeshAttest.Proofs.Topology.DistinctSwitches
import MeshAttest.Proofs.Verifier.Entries
import MeshAttest.Proofs.Verifier.Course
import MeshAttest.Proofs.CommandLine.ExitStatus
import MeshAttest.Proofs.Token.FirstKey
import MeshAttest.Proofs.Token.Unverified
import MeshAttest.Proofs.Token.Refusals
import MeshAttest.Proofs.Token.Validity
import MeshAttest.Proofs.Url.Splitting
import MeshAttest.Proofs.KeySet.OwnOrigin
import MeshAttest.Proofs.Verifier.UnusableUrl
import MeshAttest.Proofs.Topology.CitedSets
import MeshAttest.Proofs.Collection
import MeshAttest.Proofs.Verifier.Forms
