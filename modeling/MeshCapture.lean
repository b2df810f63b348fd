import MeshCapture.Scripted.Session
import MeshCapture.Proofs.Conservation
import MeshCapture.Proofs.BufferUses
import MeshCapture.Proofs.FilledCounters.Run
import MeshCapture.Proofs.Index.Renumbering
import MeshCapture.Proofs.Aliases
import MeshCapture.Proofs.Requests
import MeshCapture.Proofs.Contents.Stored
import MeshCapture.Proofs.Contents.Computed
import MeshCapture.Proofs.Viewed.Vertices
import MeshCapture.Proofs.EngineLaw
import MeshCapture.Proofs.Records.Capture
import MeshCapture.Proofs.Records.Law
import MeshCapture.Proofs.Records.View
import MeshCapture.Proofs.Batch.Captures
import MeshCapture.Proofs.Conduct.Lifetimes
import MeshCapture.Proofs.Conduct.Staging
import MeshCapture.Proofs.StageLaw
import MeshCapture.Proofs.StageWork
import MeshCapture.Proofs.Conduct.Beside
import MeshCapture.Proofs.Records.Kept
import MeshCapture.Proofs.Records.Hidden
import MeshCapture.Proofs.WorkCounters.Calls
import MeshCapture.Proofs.WorkCounters.Records
import MeshCapture.Proofs.Records.Shares
import MeshCapture.Proofs.Sizing.Contract
import MeshCapture.Proofs.Sizing.InstanceDraws
import MeshCapture.Proofs.Sizing.Bounds
import MeshCapture.Proofs.VertexLayout
import MeshCapture.Proofs.Index.StripCuts
import MeshCapture.Proofs.WorkCounters.Failures
import MeshCapture.Proofs.MemoryTolerance
import MeshCapture.Proofs.ClipPlanes.NearPlane
