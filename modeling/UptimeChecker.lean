import UptimeChecker.Time
import UptimeChecker.Assertions.Source
import UptimeChecker.Types.CheckConfig
import UptimeChecker.ConfigStore
import UptimeChecker.Lib.Residue
import UptimeChecker.Laws.CheckConfig
import UptimeChecker.Laws.ConfigStore
import UptimeChecker.Lib.Metered
import UptimeChecker.Lib.Base64
import UptimeChecker.Lib.Formula
import UptimeChecker.Lib.Located
import UptimeChecker.Numeric
import UptimeChecker.Assertions.Compiled
import UptimeChecker.Assertions.Cache
import UptimeChecker.Laws.Assertions.Eval
import UptimeChecker.Laws.Assertions.Gas
import UptimeChecker.Laws.Assertions.Headers
import UptimeChecker.Lib.HalfEven
import UptimeChecker.Lib.FloatModel
import UptimeChecker.Laws.Assertions.Comparisons
import UptimeChecker.Laws.Assertions.Compile
import UptimeChecker.Laws.Assertions.Blame
import UptimeChecker.Laws.Assertions.Body
import UptimeChecker.Laws.Assertions.Errors
import UptimeChecker.Lib.Transition
import UptimeChecker.Lib.Run
import UptimeChecker.Lib.Tally
import UptimeChecker.Types.Result
import UptimeChecker.Laws.RequestDurations
import UptimeChecker.Lib.TaggedUnion
import UptimeChecker.Types.FailureDetails
import UptimeChecker.Laws.FailureDetails
import UptimeChecker.Assertions.Json
import UptimeChecker.Laws.Assertions.Json
import UptimeChecker.Checker
import UptimeChecker.Types.CheckConfig.Json
import UptimeChecker.Laws.CheckConfig.Json
import UptimeChecker.Types.Result.Json
import UptimeChecker.Laws.Result.Json
import UptimeChecker.CheckExecutor
import UptimeChecker.CheckExecutor.ExecutorLoop
import UptimeChecker.Checker.ReqwestChecker
import UptimeChecker.Checker.Request
import UptimeChecker.Scheduler
import UptimeChecker.Laws.CheckExecutor
import UptimeChecker.Laws.Outcomes
import UptimeChecker.Laws.CheckExecutor.Order
import UptimeChecker.Laws.CheckExecutor.Reports
import UptimeChecker.Laws.CheckExecutor.ExecutorLoop
import UptimeChecker.Laws.CheckExecutor.Counters
import UptimeChecker.Laws.Scheduler.Pipeline
import UptimeChecker.Laws.Scheduler.Watermark
import UptimeChecker.Laws.Scheduler.Panic
import UptimeChecker.Laws.Scheduler.Shutdown
import UptimeChecker.Lib.GapFree
import UptimeChecker.Laws.Scheduler.Restart
import UptimeChecker.RedisConfigProvider
import UptimeChecker.Laws.RedisConfigProvider
import UptimeChecker.Redis
import UptimeChecker.Laws.Redis
import UptimeChecker.Laws.OwnedPartitions
import UptimeChecker.Laws.Cadence
import UptimeChecker.Manager
import UptimeChecker.Laws.Manager
import UptimeChecker.Laws.PartitionHandover
import UptimeChecker.RunConfigProvider
import UptimeChecker.Laws.RunConfigProvider
import UptimeChecker.ConfigWaiter
import UptimeChecker.Laws.ConfigWaiter
import UptimeChecker.Laws.ConfigWaiter.Boot
import UptimeChecker.Laws.Checker.ReqwestChecker
import UptimeChecker.Laws.Scheduler.Ledger
import UptimeChecker.Laws.Scheduler.Recovery
import UptimeChecker.Laws.Scheduler.Regions
import UptimeChecker.Laws.ResultIdentity
import UptimeChecker.Laws.Checker.Request
import UptimeChecker.Lib.Memo
import UptimeChecker.Assertions.Cache.Calls
import UptimeChecker.Laws.Assertions.Cache
import UptimeChecker.Endpoint
import UptimeChecker.Laws.Endpoint
import UptimeChecker.Lib.Cidr
import UptimeChecker.Checker.IpFilter
import UptimeChecker.Laws.Checker.IpFilter
import UptimeChecker.Producer.VectorProducer
import UptimeChecker.Laws.Producer.VectorProducer
import UptimeChecker.Laws.Producer.PendingItems
import UptimeChecker.ManagerHandle
import UptimeChecker.Laws.ManagerHandle
import UptimeChecker.Laws.ResultLines
import UptimeChecker.Laws.ResultFields
