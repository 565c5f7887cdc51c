import MailPolicy.Engine.Setup
import MailPolicy.Main
import MailPolicy.Server.BindAddress
import MailPolicy.Server.Service
import MailPolicy.Spf.Evaluation
import MailPolicy.Engine.Outcomes
import MailPolicy.Proofs.Engine.Outcomes
import MailPolicy.Proofs.Engine.Pruning
import MailPolicy.Proofs.Check.WeightBounds
import MailPolicy.Proofs.Pool.Happens
import MailPolicy.Proofs.Pool.Invariant
import MailPolicy.Proofs.Pool.Attendance
import MailPolicy.Engine.Traffic
import MailPolicy.Proofs.Engine.Stages
import MailPolicy.Proofs.Engine.Calls
import MailPolicy.Proofs.Engine.Traffic
import MailPolicy.Proofs.Engine.Completeness
import MailPolicy.Proofs.Pool.Crew
import MailPolicy.Proofs.Engine.Workers
import MailPolicy.Proofs.Engine.Simulation
import MailPolicy.Proofs.Engine.Runs
import MailPolicy.Proofs.Engine.Building
import MailPolicy.Proofs.Engine.Sessions
import MailPolicy.Proofs.Score.Waiting
import MailPolicy.Proofs.Pool.Order
import MailPolicy.Proofs.Spf.Derivation
import MailPolicy.Proofs.Spf.Limits
import MailPolicy.Proofs.Backoff.Allowance
import MailPolicy.Proofs.Check.AskRate
import MailPolicy.Proofs.Spf.Meaning
import MailPolicy.Proofs.Wire.Grammar
import MailPolicy.Proofs.Server.Swap
import MailPolicy.Proofs.Server.Retirement
import MailPolicy.Proofs.Pool.Backpressure
import MailPolicy.Proofs.Pool.Conservation
import MailPolicy.Check.KeyWatch
import MailPolicy.Proofs.Check.KeyWatch
import MailPolicy.Proofs.Server.History
import MailPolicy.Proofs.Server.Replies
import MailPolicy.Proofs.Pool.Headcount
import MailPolicy.Proofs.Pool.Closing
import MailPolicy.Proofs.Pool.Settling
import MailPolicy.Proofs.Pool.Shortage
import MailPolicy.Proofs.Pool.Shrinking
import MailPolicy.Proofs.Score.Beside
import MailPolicy.Proofs.Engine.Footprint
import MailPolicy.Proofs.Config.Backoff
import MailPolicy.Proofs.Backoff.History
import MailPolicy.Proofs.Backoff.Clusters
import MailPolicy.Proofs.Backoff.Decay
import MailPolicy.Proofs.Backoff.Lengths
import MailPolicy.Proofs.Backoff.Range
import MailPolicy.Proofs.Spf.Failures
import MailPolicy.Proofs.Spf.Reordering
import MailPolicy.Proofs.Spf.Families
import MailPolicy.Proofs.Spf.Grammar
import MailPolicy.Check.KeySession
import MailPolicy.Proofs.Check.KeySession
import MailPolicy.Check.KeyRace
import MailPolicy.Proofs.Check.KeyRace
import MailPolicy.Proofs.Text.Casing
import MailPolicy.Proofs.Check.KeyText
import MailPolicy.Proofs.Check.SameValues
import MailPolicy.Proofs.Check.WeightRows
import MailPolicy.Proofs.Check.Heaviest
import MailPolicy.Proofs.Check.AddressNames
import MailPolicy.Proofs.Check.AddressDomains
import MailPolicy.Proofs.Wire.Overlong
import MailPolicy.Proofs.Server.Releases
import MailPolicy.Proofs.Server.Ending
import MailPolicy.Proofs.Engine.Layout
