import ProxyRouter.Text.CaseMap
import ProxyRouter.Text.Blank
import ProxyRouter.Text.Quote
import ProxyRouter.Decimal.Read
import ProxyRouter.Decimal.Layout
import ProxyRouter.Json.Parse
import ProxyRouter.Json.Print
import ProxyRouter.Time.Instant
import ProxyRouter.Time.Stamp
import ProxyRouter.Net.Address
import ProxyRouter.Net.Url
import ProxyRouter.Routing.Matcher
import ProxyRouter.Json.Dynamic
import ProxyRouter.Decimal.Convert
import ProxyRouter.Pool.Proxy
import ProxyRouter.Health.State
import ProxyRouter.Health.Tracker
import ProxyRouter.Health.Schedule
import ProxyRouter.Selection.Strategy
import ProxyRouter.Order.Unstable
import ProxyRouter.Selection.Balancer
import ProxyRouter.Selection.Selector
import ProxyRouter.Selection.Sticky
import ProxyRouter.Selection.Dispatcher
import ProxyRouter.Health.Probe
import ProxyRouter.Health.Checker
import ProxyRouter.Pool.Snapshot
import ProxyRouter.Engine.Types
import ProxyRouter.Pool.Source
import ProxyRouter.Pool.Validator
import ProxyRouter.Yaml.Token.Scan
import ProxyRouter.Yaml.Event
import ProxyRouter.Text.Utf8
import ProxyRouter.Yaml.Value
import ProxyRouter.Yaml.Resolve
import ProxyRouter.Yaml.Node
import ProxyRouter.Yaml.Decode
import ProxyRouter.Pool.RosterFile
import ProxyRouter.Pool.Roster
import ProxyRouter.Json.Bind
import ProxyRouter.Settings.Codec
import ProxyRouter.Settings.Store
import ProxyRouter.Config.Ini
import ProxyRouter.Config.Dotenv
import ProxyRouter.Config.Service
import ProxyRouter.Config.Load
import ProxyRouter.Config.Logging
import ProxyRouter.Metrics.Registry
import ProxyRouter.Metrics.Exposition
import ProxyRouter.Net.UrlText
import ProxyRouter.Net.Http
import ProxyRouter.Engine.Client
import ProxyRouter.Engine.Ingress
import ProxyRouter.Console.Http
import ProxyRouter.Console.State
import ProxyRouter.Console.Handler
import ProxyRouter.App.Server
import ProxyRouter.Console.Server
import ProxyRouter.Json.Access
import ProxyRouter.App.Command
import ProxyRouter.Main
import ProxyRouter.Proofs.RouteCache
import ProxyRouter.Proofs.StickySessions
import ProxyRouter.Proofs.UnstableSort
import ProxyRouter.Proofs.SelectionContract
import ProxyRouter.Health.Loop
import ProxyRouter.Proofs.ScheduleHeap
import ProxyRouter.Proofs.ScheduleEntries
import ProxyRouter.Proofs.CheckLoop
import ProxyRouter.Health.Gate
import ProxyRouter.Proofs.EngineGate
import ProxyRouter.Proofs.NewestSample
import ProxyRouter.Proofs.RosterRefresh
import ProxyRouter.Proofs.StoredSettings
import ProxyRouter.Console.Delivery
import ProxyRouter.Proofs.SettingsDelivery
import ProxyRouter.App.Monitoring
import ProxyRouter.Proofs.RemovedProxies
import ProxyRouter.Console.RoutingTraffic
import ProxyRouter.Proofs.JsonRoundTrip
import ProxyRouter.Proofs.RuleRequests
import ProxyRouter.Proofs.FloatBits
import ProxyRouter.Proofs.DecimalRounding
import ProxyRouter.Proofs.NumberText
import ProxyRouter.Proofs.SnapshotReload
import ProxyRouter.Proofs.TrackerWindow
import ProxyRouter.Proofs.ProbeSample
import ProxyRouter.Health.Tick
import ProxyRouter.Proofs.ScheduleDue
import ProxyRouter.Proofs.SchedulerTick
import ProxyRouter.Proofs.CacheOrder
import ProxyRouter.Proofs.LeastUsedBalance
import ProxyRouter.Proofs.RuleSemantics
import ProxyRouter.Proofs.AddressRules
import ProxyRouter.Proofs.ValidatorPartition
import ProxyRouter.Proofs.SettingsUpdate
import ProxyRouter.Proofs.FloatProducts
import ProxyRouter.Proofs.AdaptiveInterval
import ProxyRouter.Proofs.LowerCase
import ProxyRouter.Proofs.AddressText
import ProxyRouter.Proofs.AddressCase
import ProxyRouter.Proofs.RuleRendering
import ProxyRouter.Proofs.RecentHosts
import ProxyRouter.Health.Cycle
import ProxyRouter.Proofs.CheckCycle
import ProxyRouter.Proofs.UrlEscapes
import ProxyRouter.Proofs.UrlAuthority
import ProxyRouter.Proofs.HostSpellings
import ProxyRouter.Proofs.SortedRanges
import ProxyRouter.Proofs.InsertionPasses
import ProxyRouter.Proofs.HeapSortOrder
import ProxyRouter.Proofs.SortSplits
import ProxyRouter.Proofs.UnstableSortOrder
import ProxyRouter.Proofs.RoundRobinCycle
