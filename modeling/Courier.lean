import Courier.Agent.Registry
import Courier.Agent.Scripted
import Courier.Main
import Courier.Queue.Scripted
import Courier.Runner.Addon
import Courier.Runner.Codeblocks
import Courier.Runner.Execute
import Courier.Runner.Scope
import Courier.Runner.Scripted
import Courier.Runner.Wait
import Courier.Proofs.QueueRun
import Courier.Proofs.QueueOrder
import Courier.Proofs.QueueDrain
import Courier.Proofs.BatchRefinement
import Courier.Proofs.ReportTale
import Courier.Proofs.StashLaw
import Courier.Proofs.Masking
import Courier.Proofs.Secrecy
import Courier.Proofs.DrainOrder
import Courier.Proofs.Airtight
import Courier.Proofs.Transparency
import Courier.Proofs.TestOrder
import Courier.Proofs.NestedScopes
import Courier.Proofs.SettledPolicy
import Courier.Proofs.CommandEffect
import Courier.Proofs.DeliveryAttempts
import Courier.Proofs.RunnerClock
import Courier.Proofs.WaitPolls
import Courier.Proofs.StepEffect
import Courier.Proofs.ActionResults
import Courier.Proofs.QueueCourse
import Courier.Proofs.TimedDrain
import Courier.Proofs.BoundedStop
import Courier.Proofs.VersionGrammar
import Courier.Proofs.VersionOrder
import Courier.Proofs.EnvironmentConfig
import Courier.Proofs.RecordCells
import Courier.Proofs.UuidTexts
import Courier.Proofs.SocketHandshake
import Courier.Proofs.AgentAnswers
import Courier.Proofs.AgentVerdicts
import Courier.Proofs.SessionStart
import Courier.Proofs.RoundTrips
import Courier.Proofs.ReportFormat
import Courier.Proofs.Base64Bits
import Courier.Proofs.PictureTexts
import Courier.Proofs.PictureReports
import Courier.Proofs.CodeblockRequests
