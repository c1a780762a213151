import Liqi.Database.HandoffOrder
import Liqi.Database.AttemptLedger
import Liqi.Database.ClaimHandover
import Liqi.Database.EnqueueIdempotency
import Liqi.Database.HandoffIds
import Liqi.Runtime.CoalescedReads
import Liqi.Runtime.Budgets
import Liqi.Native.MissingRanges
import Liqi.Realtime.IdleTimer
import Liqi.Realtime.Revocation
import Liqi.Realtime.Teardown
import Liqi.Realtime.ResumeRequired
import Liqi.Web.FreshConsumers
import Liqi.Web.RejectedJoin
import Liqi.Web.ActorKeys
import Liqi.Persistence.FakeRefinement
import Liqi.Persistence.PostgresV0
import Liqi.V0.Delivery
import Liqi.V0.WorkerDrain
import Liqi.V0.RetryBounds
import Liqi.V0.EventType
import Liqi.V0.FakeLeases
import Liqi.Readiness.Freshness
import Liqi.Deployment.Reports
import Liqi.Deployment.HostBundle
import Liqi.Migrations.RunRecords
import Liqi.Migrations.ExitStatus
